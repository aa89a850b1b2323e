import Cc1352Greybus.Mdns.Messages

/-!
Queries, as those who hear them read them.

What `mdns_multiquery_send` hands to the socket is a header and then each question in turn, and
nothing of what the buffer held before. The same parser that reads replies finds its questions
and no answer behind them. A query is sent to a group its sender has joined, so it comes back.

* `MdnsQuestion`: a type, and a name of the DNS as a caller spells it.
* `mdnsWriteQuestions_writes`: questions that fit are written one behind the other.
* `sends_packet_iff`: the packet is handed on exactly when it fits the buffer.
* `QuestionsAt.of_written`: written questions are read as questions.
* `query_on_the_wire`: the packet, and what becomes of it when it is heard.
-/

namespace Cc1352Greybus

open Memory (splice)

/-! ### The packet -/

/-- A type asked for, and a name of the DNS with or without a dot at its end. -/
structure MdnsQuestion where
  type : U16
  name : MdnsName
  trailingDot : Bool

namespace MdnsQuestion

/-- As it is handed to `mdns_multiquery_send`. -/
def query (q : MdnsQuestion) : MdnsQuery := ⟨q.type, q.name.spelled q.trailingDot⟩

/-- As it goes on the wire. -/
def bytes (q : MdnsQuestion) : List U8 :=
  packedName q.name.labels ++ be16 q.type ++ be16 MDNS_CLASS_IN

lemma query_ne (q : MdnsQuestion) : q.query.name ≠ [] := q.name.spelled_ne q.trailingDot

/-- The encoder finds the labels of the name. -/
lemma nameLength_query (q : MdnsQuestion) :
    q.query.nameLength = (packedName q.name.labels).length := by
  rw [MdnsQuery.nameLength, query, q.name.nameLabels_spelled]

lemma bytes_length (q : MdnsQuestion) : q.bytes.length = q.query.nameLength + 4 := by
  rw [bytes, q.nameLength_query, List.length_append, List.length_append, be16_length, be16_length]

/-- The capacity asks for six bytes a question, and each takes more. -/
lemma six_le_length (q : MdnsQuestion) : 6 ≤ q.bytes.length := by
  rw [bytes_length, nameLength_query, q.name.packed_length]
  omega

end MdnsQuestion

/-- The questions on the wire. -/
def questionBytes (questions : List MdnsQuestion) : List U8 := questions.flatMap MdnsQuestion.bytes

/-- A query on the wire. -/
def queryBytes (queryId : U16) (questions : List MdnsQuestion) : List U8 :=
  mdnsQueryHeader queryId questions.length ++ questionBytes questions

@[simp] lemma questionBytes_nil : questionBytes [] = [] := rfl

@[simp] lemma questionBytes_cons (q : MdnsQuestion) (questions : List MdnsQuestion) :
    questionBytes (q :: questions) = q.bytes ++ questionBytes questions := rfl

lemma questionBytes_length (questions : List MdnsQuestion) :
    (questionBytes questions).length = sectionLength (questions.map MdnsQuestion.query) := by
  induction questions with
  | nil => rfl
  | cons q questions ih =>
      rw [questionBytes_cons, List.length_append, ih, q.bytes_length, List.map_cons,
        sectionLength_cons]

/-- So a query that fits has room for what the capacity is compared with. -/
lemma six_mul_le (questions : List MdnsQuestion) :
    6 * questions.length ≤ (questionBytes questions).length := by
  induction questions with
  | nil => rfl
  | cons q questions ih =>
      have hq := q.six_le_length
      rw [questionBytes_cons, List.length_append, List.length_cons]
      omega

@[simp] lemma mdnsQueryHeader_length (queryId : U16) (count : ℕ) :
    (mdnsQueryHeader queryId count).length = MDNS_HEADER_SIZE := rfl

lemma queryBytes_length (queryId : U16) (questions : List MdnsQuestion) :
    (queryBytes queryId questions).length =
      MDNS_HEADER_SIZE + (questionBytes questions).length := by
  rw [queryBytes, List.length_append, mdnsQueryHeader_length]

/-- Two fields in a row. -/
lemma mdnsHtons_two {α : Type} {buffer : List U8} {data : ℕ} (h : data + 4 ≤ buffer.length)
    (a b : U16) (f : List U8 → ℕ → Except Fault α) :
    (mdnsHtons buffer data a >>= fun x => mdnsHtons x.1 x.2 b >>= fun y => f y.1 y.2) =
      f (splice buffer data (be16 a ++ be16 b)) (data + 4) := by
  have hlen : (splice buffer data (be16 a)).length = buffer.length :=
    Memory.splice_length (by rw [be16_length]; omega)
  have hjoin : splice (splice buffer data (be16 a)) (data + 2) (be16 b) =
      splice buffer data (be16 a ++ be16 b) := Memory.splice_splice (be16 a) (be16 b) (by omega)
  rw [mdnsHtons_of_le (by omega)]
  show (mdnsHtons (splice buffer data (be16 a)) (data + 2) b >>= _) = _
  rw [mdnsHtons_of_le (by omega), hjoin]
  rfl

/-- **Questions that fit** are written one behind the other. -/
lemma mdnsWriteQuestions_writes {questions : List MdnsQuestion} {buffer : List U8} {data : ℕ}
    (h : data + (questionBytes questions).length ≤ buffer.length) :
    mdnsWriteQuestions buffer.length MDNS_CLASS_IN (questions.map MdnsQuestion.query) buffer data =
      .ok (splice buffer data (questionBytes questions),
        some (data + (questionBytes questions).length)) := by
  induction questions generalizing buffer data with
  | nil =>
      rw [questionBytes_nil, Memory.splice_nil]
      rfl
  | cons q questions ih =>
      rw [questionBytes_cons, List.length_append] at h
      have hq := q.bytes_length
      rw [q.nameLength_query] at hq
      have hmake : Makes buffer.length buffer data (nameLabels q.query.name)
          (mdnsStringMake buffer buffer.length data q.query.name q.query.name.length) :=
        mdnsStringMake_makes q.query_ne le_rfl (by omega)
      rw [MdnsQuestion.query, q.name.nameLabels_spelled] at hmake
      have hname : (splice buffer data (packedName q.name.labels)).length = buffer.length :=
        Memory.splice_length (by omega)
      -- the name, and behind it the type and the class
      have hbytes : splice (splice buffer data (packedName q.name.labels))
          (data + (packedName q.name.labels).length) (be16 q.type ++ be16 MDNS_CLASS_IN) =
            splice buffer data q.bytes := by
        rw [Memory.splice_splice _ _ (by omega), MdnsQuestion.bytes, List.append_assoc]
      have hlen : (splice buffer data q.bytes).length = buffer.length :=
        Memory.splice_length (by omega)
      have hdata : data + (packedName q.name.labels).length + 4 = data + q.bytes.length := by omega
      have hrest := @ih (splice buffer data q.bytes) (data + q.bytes.length) (by omega)
      rw [hlen, Memory.splice_splice _ _ (by omega)] at hrest
      calc mdnsWriteQuestions buffer.length MDNS_CLASS_IN
            ((q :: questions).map MdnsQuestion.query) buffer data
          = mdnsHtons (splice buffer data (packedName q.name.labels))
                (data + (packedName q.name.labels).length) q.type >>= fun x =>
              mdnsHtons x.1 x.2 MDNS_CLASS_IN >>= fun y =>
                mdnsWriteQuestions buffer.length MDNS_CLASS_IN
                  (questions.map MdnsQuestion.query) y.1 y.2 :=
            mdnsWriteQuestions_made (hmake.made (by omega))
        _ = mdnsWriteQuestions buffer.length MDNS_CLASS_IN (questions.map MdnsQuestion.query)
              (splice buffer data q.bytes) (data + q.bytes.length) := by
            rw [mdnsHtons_two (by omega), hbytes, hdata]
        _ = _ := by
            rw [hrest, questionBytes_cons, List.length_append, Nat.add_assoc]

/-- The bit for a unicast response is not among those of the class, so clearing it does nothing. -/
lemma rclass_eq (sock : MdnsSocket) :
    (if sock.mdnsPort then MDNS_CLASS_IN &&& ~~~MDNS_UNICAST_RESPONSE else MDNS_CLASS_IN) =
      MDNS_CLASS_IN := by
  split
  · decide
  · rfl

/-- A query that fits is handed to the socket. -/
lemma mdnsMultiquerySend_fits (sock : MdnsSocket) {questions : List MdnsQuestion}
    (hne : questions ≠ []) {buffer : List U8} {queryId : U16}
    (h : (queryBytes queryId questions).length ≤ buffer.length) :
    mdnsMultiquerySend sock (questions.map MdnsQuestion.query) buffer buffer.length queryId =
      .ok ⟨if sock.sends then queryId.toNat else -1, some (queryBytes queryId questions)⟩ := by
  have hsix := six_mul_le questions
  rw [queryBytes_length] at h
  -- the check before anything is written is passed
  have hguard : ¬ ((questions.map MdnsQuestion.query).length = 0 ∨
      buffer.length < MDNS_HEADER_SIZE + 6 * (questions.map MdnsQuestion.query).length) := by
    rw [List.length_map, not_or, List.length_eq_zero_iff]
    exact ⟨hne, by omega⟩
  have hroom : 0 + (mdnsQueryHeader queryId (questions.map MdnsQuestion.query).length).length ≤
      buffer.length := by
    rw [mdnsQueryHeader_length]
    omega
  have hheader : (splice buffer 0 (mdnsQueryHeader queryId questions.length)).length =
      buffer.length := Memory.splice_length (by rw [mdnsQueryHeader_length]; omega)
  -- header and questions, written one behind the other
  have hwritten := mdnsWriteQuestions_writes
    (show MDNS_HEADER_SIZE + (questionBytes questions).length ≤
      (splice buffer 0 (mdnsQueryHeader queryId questions.length)).length by omega)
  have hjoin : splice (splice buffer 0 (mdnsQueryHeader queryId questions.length)) MDNS_HEADER_SIZE
      (questionBytes questions) = splice buffer 0 (queryBytes queryId questions) := by
    have hjoined := Memory.splice_splice (m := buffer) (i := 0)
      (mdnsQueryHeader queryId questions.length) (questionBytes questions) (Nat.zero_le _)
    rwa [mdnsQueryHeader_length, Nat.zero_add] at hjoined
  rw [hheader, hjoin, ← queryBytes_length queryId] at hwritten
  have hlen : (splice buffer 0 (queryBytes queryId questions)).length = buffer.length :=
    Memory.splice_length (by rw [queryBytes_length]; omega)
  -- what is sent is what has been written
  have hslice : Memory.slice Fault.outOfBounds (splice buffer 0 (queryBytes queryId questions)) 0
      (queryBytes queryId questions).length = .ok (queryBytes queryId questions) := by
    have htake := Memory.take_splice_end (m := buffer) (queryBytes queryId questions)
      (Nat.zero_le _)
    rw [Nat.zero_add, List.take_zero, List.nil_append] at htake
    rw [Memory.slice_of_le _ (by rw [queryBytes_length]; omega), List.drop_zero, htake]
  rw [mdnsMultiquerySend, if_neg hguard, Memory.store_of_le _ hroom, rclass_eq, List.length_map]
  show (mdnsWriteQuestions _ _ _ _ _ >>= _) = _
  rw [hwritten]
  show (Memory.slice _ _ _ _ >>= _) = _
  rw [hslice]
  rfl

/-- One that does not fit is not, nor is an empty one. -/
lemma not_sends_of_lt (sock : MdnsSocket) {questions : List MdnsQuestion} {buffer : List U8}
    {queryId : U16}
    (h : questions = [] ∨ buffer.length < (queryBytes queryId questions).length) {s : MdnsSent}
    (hs : mdnsMultiquerySend sock (questions.map MdnsQuestion.query) buffer buffer.length queryId =
      .ok s) :
    s.packet = none := by
  have hnames : ∀ q ∈ questions.map MdnsQuestion.query, q.name ≠ [] := by
    rw [List.forall_mem_map]
    exact fun q _ => q.query_ne
  by_cases hguard : (questions.map MdnsQuestion.query).length = 0 ∨
      buffer.length < MDNS_HEADER_SIZE + 6 * (questions.map MdnsQuestion.query).length
  · rw [mdnsMultiquerySend, if_pos hguard] at hs
    cases hs
    rfl
  · obtain ⟨rclass, buffer', hlen, hsend⟩ := mdnsMultiquerySend_eq sock hguard queryId
    rw [not_or, Nat.not_lt, List.length_map, List.length_eq_zero_iff] at hguard
    have hshort := h.resolve_left hguard.1
    rw [queryBytes_length, questionBytes_length] at hshort
    have hspec := mdnsWriteQuestions_spec rclass hnames hlen
      (le_trans (Nat.le_add_right MDNS_HEADER_SIZE _) hguard.2)
    rw [hsend] at hs
    by_cases hcut : SomeCutShort buffer.length MDNS_HEADER_SIZE (questions.map MdnsQuestion.query)
    · rw [hspec.overruns hcut] at hs
      cases hs
    · obtain ⟨buffer₂, stop, hr, -, -, hnone⟩ := hspec.writes hcut
      rw [hr, hnone hshort] at hs
      cases hs
      rfl

/-- **What is handed on** is the header and the questions, exactly when they fit. -/
lemma sends_packet_iff (sock : MdnsSocket) (questions : List MdnsQuestion) (buffer : List U8)
    (queryId : U16) (p : List U8) :
    (∃ s, mdnsMultiquerySend sock (questions.map MdnsQuestion.query) buffer buffer.length queryId =
        .ok s ∧ s.packet = some p) ↔
      questions ≠ [] ∧ p.length ≤ buffer.length ∧ p = queryBytes queryId questions := by
  refine ⟨?_, ?_⟩
  · rintro ⟨s, hs, hp⟩
    by_cases hfits : questions ≠ [] ∧ (queryBytes queryId questions).length ≤ buffer.length
    · rw [mdnsMultiquerySend_fits sock hfits.1 hfits.2] at hs
      cases hs
      cases hp
      exact ⟨hfits.1, hfits.2, rfl⟩
    · rw [not_and_or, not_not, Nat.not_le] at hfits
      rw [not_sends_of_lt sock hfits hs] at hp
      cases hp
  · rintro ⟨hne, hfits, rfl⟩
    exact ⟨_, mdnsMultiquerySend_fits sock hne hfits, rfl⟩

/-! ### Heard again -/

/-- **Written questions are read** as questions. -/
lemma QuestionsAt.of_written {d : List U8} {start : ℕ} {questions : List MdnsQuestion}
    (h : FoundAt (questionBytes questions) d start) :
    QuestionsAt d start questions.length (start + (questionBytes questions).length) := by
  induction questions generalizing start with
  | nil => exact .nil start
  | cons q questions ih =>
      rw [questionBytes_cons] at h
      have hq := h.append.1
      rw [MdnsQuestion.bytes, List.append_assoc] at hq
      have hname : NameAt d start q.name.labels (start + (packedName q.name.labels).length) :=
        nameAt_packed (Nat.zero_le _) (.here start) hq.append.1
          fun l hl => ⟨q.name.label_ne l hl, q.name.label_le l hl⟩
      have hbehind : start + (packedName q.name.labels).length + 4 = start + q.bytes.length := by
        rw [q.bytes_length, q.nameLength_query, Nat.add_assoc]
      have hrest := ih h.append.2
      rw [← hbehind] at hrest
      have hend : start + (questionBytes (q :: questions)).length =
          start + (packedName q.name.labels).length + 4 + (questionBytes questions).length := by
        rw [hbehind, questionBytes_cons, List.length_append, Nat.add_assoc]
      rw [hend]
      exact .cons hname q.name.labels_le hrest

/-- The header counts them. -/
lemma mdnsCount_query (queryId : U16) {questions : List MdnsQuestion}
    (hcount : questions.length < 2 ^ 16) :
    mdnsCount (queryBytes queryId questions) 4 = questions.length := by
  calc mdnsCount (queryBytes queryId questions) 4
      = (BitVec.ofNat 16 questions.length).toNat := congrArg BitVec.toNat (ofLe16_le16 _)
    _ = questions.length := by rw [BitVec.toNat_ofNat, Nat.mod_eq_of_lt hcount]

/-- The questions of a query take up the rest of it. -/
lemma questionsAt_query (queryId : U16) {questions : List MdnsQuestion}
    (hcount : questions.length < 2 ^ 16) :
    QuestionsAt (queryBytes queryId questions) MDNS_HEADER_SIZE
      (mdnsCount (queryBytes queryId questions) 4) (queryBytes queryId questions).length := by
  have hfound : FoundAt (questionBytes questions) (queryBytes queryId questions)
      MDNS_HEADER_SIZE := by
    rw [FoundAt, queryBytes, List.drop_left' (mdnsQueryHeader_length _ _)]
  rw [mdnsCount_query queryId hcount, queryBytes_length]
  exact .of_written hfound

/-- A query is a message of questions alone. -/
lemma ptrReply_query (queryId : U16) {questions : List MdnsQuestion}
    (hcount : questions.length < 2 ^ 16) : PtrReply (queryBytes queryId questions) [] where
  header := by
    rw [queryBytes_length]
    exact Nat.le_add_right _ _
  questions := ⟨_, questionsAt_query queryId hcount, .nil _⟩
  answers := congrArg BitVec.toNat (ofLe16_le16 0)

/-- **A query on the wire** is its header and its questions and nothing that was in the buffer
before, exactly when they fit. Whoever reads it finds each of its questions, the last one up to
its end, and heard again it is no answer, whatever is looked for. -/
theorem query_on_the_wire (sock : MdnsSocket) {questions : List MdnsQuestion}
    (hcount : questions.length < 2 ^ 16) (buffer : List U8) (queryId : U16) :
    (∀ p, (∃ s, mdnsMultiquerySend sock (questions.map MdnsQuestion.query) buffer buffer.length
            queryId = .ok s ∧ s.packet = some p) ↔
          questions ≠ [] ∧ p.length ≤ buffer.length ∧ p = queryBytes queryId questions) ∧
      QuestionsAt (queryBytes queryId questions) MDNS_HEADER_SIZE
        (mdnsCount (queryBytes queryId questions) 4) (queryBytes queryId questions).length ∧
      ∀ (d : MdnsDatagram) (query : List U8), d.bytes = queryBytes queryId questions →
        mdnsExpected.length + query.length ≤ MDNS_PTR_NAME_SIZE →
        ∀ received namebuffer addr,
          mdnsQueryRecvInternal (some d) received namebuffer query addr = .ok (0, addr) := by
  refine ⟨sends_packet_iff sock questions buffer queryId, questionsAt_query queryId hcount, ?_⟩
  intro d query hd hfits received namebuffer addr
  have hreply := ptrReply_query queryId hcount
  rw [← hd] at hreply
  have hvisits : datagramVisits d.bytes = [] := hreply.visits d.bytes_le
  have hplain : d.Plain query := Or.inr (by simp [hvisits])
  have hno : ¬ d.Carries query := by simp [MdnsDatagram.Carries, hvisits]
  rw [mdnsQueryRecvInternal_plain hfits hplain, if_neg hno]
  rfl

/-- As the bridge asks for the nodes around it. -/
def nodesQuestion : MdnsQuestion := ⟨MDNS_RECORDTYPE_PTR, greybusService, false⟩

/-- That question, in a buffer with room for it. -/
theorem query_on_the_wire_nodes :
    (∀ p, (∃ s, mdnsMultiquerySend ⟨false, true⟩ ([nodesQuestion].map MdnsQuestion.query)
            (List.replicate 100 0) (List.replicate 100 (0 : U8)).length 0 = .ok s ∧
            s.packet = some p) ↔
          [nodesQuestion] ≠ [] ∧ p.length ≤ (List.replicate 100 (0 : U8)).length ∧
            p = queryBytes 0 [nodesQuestion]) ∧
      QuestionsAt (queryBytes 0 [nodesQuestion]) MDNS_HEADER_SIZE
        (mdnsCount (queryBytes 0 [nodesQuestion]) 4) (queryBytes 0 [nodesQuestion]).length ∧
      ∀ (d : MdnsDatagram) (query : List U8), d.bytes = queryBytes 0 [nodesQuestion] →
        mdnsExpected.length + query.length ≤ MDNS_PTR_NAME_SIZE →
        ∀ received namebuffer addr,
          mdnsQueryRecvInternal (some d) received namebuffer query addr = .ok (0, addr) :=
  query_on_the_wire ⟨false, true⟩ (by decide) (List.replicate 100 0) 0

end Cc1352Greybus
