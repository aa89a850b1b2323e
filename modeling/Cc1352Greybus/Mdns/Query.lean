import Cc1352Greybus.Mdns.RoundTrip

/-!
`mdns_multiquery_send`: a query packet in a buffer of a given capacity.

Before anything is written the capacity is compared with six bytes for each
question, and the name encoder checks the bytes it writes itself. The type and the
class behind each name are written unchecked.

* `mdnsWriteQuestions_spec`: the questions are written, or one of them is refused, or
  the four bytes behind one of the names run over the end.
* `query_inside_iff`: nothing is written outside the buffer exactly when no name ends
  in the last four bytes of it.
* `query_overruns`: a name of 83 bytes sent by `mdns_query_send`.
-/

namespace Cc1352Greybus

open Memory (splice)

/-! ### The model -/

/-- `MDNS_REQUEST_BUFFER_SIZE` -/
def MDNS_REQUEST_BUFFER_SIZE : ℕ := 100

/-- `MDNS_CLASS_IN` -/
def MDNS_CLASS_IN : U16 := 1

/-- `MDNS_UNICAST_RESPONSE` -/
def MDNS_UNICAST_RESPONSE : U16 := 0x8000

/-- `MDNS_RECORDTYPE_PTR` -/
def MDNS_RECORDTYPE_PTR : U16 := 12

/-- A 16-bit field in network order. -/
def be16 (x : U16) : List U8 := [(x >>> 8).setWidth 8, x.setWidth 8]

@[simp] lemma be16_length (x : U16) : (be16 x).length = 2 := rfl

/-- `struct mdns_query_t` -/
structure MdnsQuery where
  type : U16
  name : List U8
  deriving DecidableEq

/-- What the socket answers. -/
structure MdnsSocket where
  /-- whether it is known to be bound to `MDNS_PORT` -/
  mdnsPort : Bool
  /-- whether `mdns_multicast_send` gets a packet out on it -/
  sends : Bool

/-- `sizeof(struct mdns_header_t)` -/
def MDNS_HEADER_SIZE : ℕ := 12

/-- The fields of the header `mdns_multiquery_send` fills in. -/
def mdnsQueryHeader (queryId : U16) (count : ℕ) : List U8 :=
  be16 queryId ++ be16 0 ++ be16 (BitVec.ofNat 16 count) ++ be16 0 ++ be16 0 ++ be16 0

/-- `mdns_htons`: the memory, and the pointer behind the field. -/
def mdnsHtons (buffer : List U8) (data : ℕ) (val : U16) : Except Fault (List U8 × ℕ) := do
  let buffer ← Memory.store .outOfBounds buffer data (be16 val)
  pure (buffer, data + 2)

/-- The loop of `mdns_multiquery_send`: the memory, and the end of the questions in it
unless a name does not fit. -/
def mdnsWriteQuestions (capacity : ℕ) (rclass : U16) :
    List MdnsQuery → List U8 → ℕ → Except Fault (List U8 × Option ℕ)
  | [], buffer, data => pure (buffer, some data)
  | q :: query, buffer, data => do
    let (buffer, data) ← mdnsStringMake buffer capacity data q.name q.name.length
    match data with
    | none => pure (buffer, none)
    | some data => do
      let (buffer, data) ← mdnsHtons buffer data q.type
      let (buffer, data) ← mdnsHtons buffer data rclass
      mdnsWriteQuestions capacity rclass query buffer data

/-- What `mdns_multiquery_send` returns, and the packet it hands to
`mdns_multicast_send`. -/
structure MdnsSent where
  ret : ℤ
  packet : Option (List U8)
  deriving DecidableEq

/-- `mdns_multiquery_send` -/
def mdnsMultiquerySend (sock : MdnsSocket) (query : List MdnsQuery) (buffer : List U8)
    (capacity : ℕ) (queryId : U16) : Except Fault MdnsSent :=
  if query.length = 0 ∨ capacity < MDNS_HEADER_SIZE + 6 * query.length then pure ⟨-1, none⟩
  else do
    let rclass := if sock.mdnsPort then MDNS_CLASS_IN &&& ~~~MDNS_UNICAST_RESPONSE
      else MDNS_CLASS_IN
    let buffer ← Memory.store .outOfBounds buffer 0 (mdnsQueryHeader queryId query.length)
    let (buffer, data) ← mdnsWriteQuestions capacity rclass query buffer MDNS_HEADER_SIZE
    match data with
    | none => pure ⟨-1, none⟩
    | some tosend => do
      let packet ← Memory.slice .outOfBounds buffer 0 tosend
      pure ⟨if sock.sends then queryId.toNat else -1, some packet⟩

/-- `mdns_query_send`, over whatever its stack holds. -/
def mdnsQuerySend (sock : MdnsSocket) (stack : Vector U8 MDNS_REQUEST_BUFFER_SIZE)
    (name : List U8) : Except Fault MdnsSent :=
  mdnsMultiquerySend sock [⟨MDNS_RECORDTYPE_PTR, name⟩] stack.toList MDNS_REQUEST_BUFFER_SIZE 0

/-! ### The questions -/

/-- The bytes of a question's name. -/
def MdnsQuery.nameLength (q : MdnsQuery) : ℕ := (packedName (nameLabels q.name)).length

/-- The bytes of the questions: each has a name, a type and a class. -/
def sectionLength (query : List MdnsQuery) : ℕ := (query.map fun q => q.nameLength + 4).sum

@[simp] lemma sectionLength_nil : sectionLength [] = 0 := rfl

@[simp] lemma sectionLength_cons (q : MdnsQuery) (query : List MdnsQuery) :
    sectionLength (q :: query) = q.nameLength + 4 + sectionLength query := by
  simp [sectionLength]

/-- A name that fits, written from `data` on, but whose type and class do not. -/
def CutShort (capacity data : ℕ) (q : MdnsQuery) : Prop :=
  data + q.nameLength ≤ capacity ∧ capacity < data + q.nameLength + 4

/-- Some question is cut short where it stands in its section. -/
def SomeCutShort (capacity data : ℕ) (query : List MdnsQuery) : Prop :=
  ∃ pre q post, query = pre ++ q :: post ∧ CutShort capacity (data + sectionLength pre) q

lemma someCutShort_cons {capacity data : ℕ} {q : MdnsQuery} {query : List MdnsQuery} :
    SomeCutShort capacity data (q :: query) ↔
      CutShort capacity data q ∨ SomeCutShort capacity (data + (q.nameLength + 4)) query := by
  refine ⟨?_, ?_⟩
  · rintro ⟨pre, q', post, hq, hcut⟩
    cases pre with
    | nil =>
        obtain ⟨rfl, -⟩ := List.cons.inj hq
        exact Or.inl hcut
    | cons p pre =>
        obtain ⟨rfl, rfl⟩ := List.cons.inj hq
        rw [sectionLength_cons, ← Nat.add_assoc] at hcut
        exact Or.inr ⟨pre, q', post, rfl, hcut⟩
  · rintro (hcut | ⟨pre, q', post, rfl, hcut⟩)
    · exact ⟨[], q, query, rfl, hcut⟩
    · refine ⟨q :: pre, q', post, rfl, ?_⟩
      rwa [sectionLength_cons, ← Nat.add_assoc]

/-- Behind the end of the buffer no name fits. -/
lemma not_someCutShort_of_lt {capacity data : ℕ} (h : capacity < data) (query : List MdnsQuery) :
    ¬ SomeCutShort capacity data query := by
  rintro ⟨pre, q, post, -, hfits, -⟩
  omega

/-- What writing the questions from `data` on comes to. -/
structure WritesQuestions (capacity data : ℕ) (query : List MdnsQuery)
    (r : Except Fault (List U8 × Option ℕ)) : Prop where
  overruns : SomeCutShort capacity data query → r = .error .outOfBounds
  writes : ¬ SomeCutShort capacity data query → ∃ buffer stop, r = .ok (buffer, stop) ∧
    buffer.length = capacity ∧ (∀ e, stop = some e → e = data + sectionLength query) ∧
    (capacity < data + sectionLength query → stop = none)

lemma mdnsHtons_of_le {buffer : List U8} {data : ℕ} (h : data + 2 ≤ buffer.length) (val : U16) :
    mdnsHtons buffer data val = .ok (splice buffer data (be16 val), data + 2) := by
  rw [mdnsHtons, Memory.store_of_le _ h]
  rfl

lemma mdnsHtons_of_lt {buffer : List U8} {data : ℕ} (h : buffer.length < data + 2) (val : U16) :
    mdnsHtons buffer data val = .error .outOfBounds := by
  rw [mdnsHtons, Memory.store_of_lt _ h]
  rfl

/-- Two fields that fit are written one behind the other. -/
lemma exists_mdnsHtons_two {α : Type} {buffer : List U8} {data : ℕ} (h : data + 4 ≤ buffer.length)
    (a b : U16) (f : List U8 → ℕ → Except Fault α) : ∃ buffer', buffer'.length = buffer.length ∧
      (mdnsHtons buffer data a >>= fun x => mdnsHtons x.1 x.2 b >>= fun y => f y.1 y.2) =
        f buffer' (data + 4) := by
  have hlen : (splice buffer data (be16 a)).length = buffer.length :=
    Memory.splice_length (by rw [be16_length]; omega)
  refine ⟨splice (splice buffer data (be16 a)) (data + 2) (be16 b), ?_, ?_⟩
  · rw [Memory.splice_length (by rw [be16_length, hlen]; omega), hlen]
  · rw [mdnsHtons_of_le (by omega)]
    show (mdnsHtons (splice buffer data (be16 a)) (data + 2) b >>= _) = _
    rw [mdnsHtons_of_le (by omega)]
    rfl

/-- Two fields that do not fit run over the end. -/
lemma mdnsHtons_two_of_lt {α : Type} {buffer : List U8} {data : ℕ} (h : buffer.length < data + 4)
    (a b : U16) (f : List U8 → ℕ → Except Fault α) :
    (mdnsHtons buffer data a >>= fun x => mdnsHtons x.1 x.2 b >>= fun y => f y.1 y.2) =
      .error .outOfBounds := by
  by_cases hfirst : data + 2 ≤ buffer.length
  · have hlen : (splice buffer data (be16 a)).length = buffer.length :=
      Memory.splice_length (by rw [be16_length]; omega)
    rw [mdnsHtons_of_le hfirst]
    show (mdnsHtons (splice buffer data (be16 a)) (data + 2) b >>= _) = _
    rw [mdnsHtons_of_lt (by omega)]
    rfl
  · rw [mdnsHtons_of_lt (Nat.not_le.mp hfirst)]
    rfl

/-- The loop after a name that does not fit. -/
lemma mdnsWriteQuestions_refused {capacity data : ℕ} {rclass : U16} {q : MdnsQuery}
    {query : List MdnsQuery} {buffer buffer' : List U8}
    (h : mdnsStringMake buffer capacity data q.name q.name.length = .ok (buffer', none)) :
    mdnsWriteQuestions capacity rclass (q :: query) buffer data = .ok (buffer', none) := by
  rw [mdnsWriteQuestions, h]
  rfl

/-- The loop after a name that fits. -/
lemma mdnsWriteQuestions_made {capacity data stop : ℕ} {rclass : U16} {q : MdnsQuery}
    {query : List MdnsQuery} {buffer buffer' : List U8}
    (h : mdnsStringMake buffer capacity data q.name q.name.length = .ok (buffer', some stop)) :
    mdnsWriteQuestions capacity rclass (q :: query) buffer data =
      mdnsHtons buffer' stop q.type >>= fun x => mdnsHtons x.1 x.2 rclass >>= fun y =>
        mdnsWriteQuestions capacity rclass query y.1 y.2 := by
  rw [mdnsWriteQuestions, h]
  rfl

/-- **The questions** are written, one of them is refused, or the bytes behind a name
run over the end of the buffer. -/
theorem mdnsWriteQuestions_spec {capacity : ℕ} (rclass : U16) {query : List MdnsQuery}
    (hname : ∀ q ∈ query, q.name ≠ []) {buffer : List U8} (hlen : buffer.length = capacity)
    {data : ℕ} (hdata : data ≤ capacity) :
    WritesQuestions capacity data query
      (mdnsWriteQuestions capacity rclass query buffer data) := by
  induction query generalizing buffer data with
  | nil =>
      refine ⟨?_, fun _ => ⟨buffer, some data, rfl, hlen, by simp, fun hlt => ?_⟩⟩
      · rintro ⟨pre, q, post, hq, -⟩
        simp at hq
      · rw [sectionLength_nil] at hlt
        omega
  | cons q query ih =>
      have hmake := mdnsStringMake_makes (hname q (by simp)) hlen.ge hdata
      by_cases hfits : q.nameLength ≤ capacity - data
      · have hstop : data + q.nameLength ≤ capacity := by omega
        have hmade : mdnsWriteQuestions capacity rclass (q :: query) buffer data = _ :=
          mdnsWriteQuestions_made (hmake.made hfits)
        have hlen₁ : (splice buffer data (packedName (nameLabels q.name))).length = capacity := by
          rw [Memory.splice_length (by rw [hlen]; exact hstop), hlen]
        by_cases hcut : capacity < data + q.nameLength + 4
        · -- the type or the class does not fit any more
          refine ⟨fun _ => ?_, fun hno => absurd (someCutShort_cons.mpr (Or.inl ⟨hstop, hcut⟩)) hno⟩
          rw [hmade]
          exact mdnsHtons_two_of_lt (by rw [hlen₁]; exact hcut) _ _ _
        · obtain ⟨buffer₂, hlen₂, hwritten⟩ := exists_mdnsHtons_two
            (show data + q.nameLength + 4 ≤ _ by rw [hlen₁]; exact Nat.not_lt.mp hcut)
            q.type rclass (mdnsWriteQuestions capacity rclass query)
          have hrest := ih (fun p hp => hname p (by simp [hp])) (hlen₂.trans hlen₁)
            (Nat.not_lt.mp hcut)
          have hcons : SomeCutShort capacity data (q :: query) ↔
              SomeCutShort capacity (data + q.nameLength + 4) query := by
            rw [someCutShort_cons, Nat.add_assoc, or_iff_right fun h => hcut h.2]
          have hloop := hmade.trans hwritten
          refine ⟨fun hsome => ?_, fun hno => ?_⟩
          · rw [hloop, hrest.overruns (hcons.mp hsome)]
          · obtain ⟨buffer', stop, hr, hlen', hend, hshort⟩ := hrest.writes (mt hcons.mpr hno)
            have hsum : data + sectionLength (q :: query) =
                data + q.nameLength + 4 + sectionLength query := by
              rw [sectionLength_cons]
              omega
            exact ⟨buffer', stop, hloop.trans hr, hlen', hsum ▸ hend, hsum ▸ hshort⟩
      · obtain ⟨buffer', hr, hsame, -⟩ := hmake.refused (Nat.not_le.mp hfits)
        have hno : ¬ SomeCutShort capacity data (q :: query) := by
          rw [someCutShort_cons, not_or]
          exact ⟨fun hcut => hfits (by have := hcut.1; omega),
            not_someCutShort_of_lt (by omega) query⟩
        exact ⟨fun hcut => absurd hcut hno, fun _ => ⟨buffer', none,
          mdnsWriteQuestions_refused hr, hsame.trans hlen, by simp, fun _ => rfl⟩⟩

/-! ### The packet -/

/-- The packet is built inside the buffer: it is refused or handed on, and refused
whenever its questions do not fit. -/
def BuiltInside (capacity : ℕ) (query : List MdnsQuery) (queryId : U16)
    (r : Except Fault MdnsSent) : Prop :=
  ∃ s, r = .ok s ∧
    (s.ret = -1 ∨ s.ret = queryId.toNat ∧
      ∃ p, s.packet = some p ∧ p.length = MDNS_HEADER_SIZE + sectionLength query) ∧
    (capacity < MDNS_HEADER_SIZE + sectionLength query → s.ret = -1)

/-- When `mdns_multiquery_send` keeps inside its buffer: it is refused at once, or no
name ends in the last four bytes of the buffer. -/
def KeepsInside (capacity : ℕ) (query : List MdnsQuery) : Prop :=
  capacity < MDNS_HEADER_SIZE + 6 * query.length ∨ ¬ SomeCutShort capacity MDNS_HEADER_SIZE query

/-- What is done with the questions once they are written. -/
def mdnsSendPacket (sock : MdnsSocket) (queryId : U16) (buffer : List U8) :
    Option ℕ → Except Fault MdnsSent
  | none => pure ⟨-1, none⟩
  | some tosend => do
    let packet ← Memory.slice .outOfBounds buffer 0 tosend
    pure ⟨if sock.sends then queryId.toNat else -1, some packet⟩

/-- Past its first check the packet is what the loop writes behind the header. -/
lemma mdnsMultiquerySend_eq (sock : MdnsSocket) {query : List MdnsQuery} {buffer : List U8}
    (hguard : ¬ (query.length = 0 ∨ buffer.length < MDNS_HEADER_SIZE + 6 * query.length))
    (queryId : U16) : ∃ rclass buffer', buffer'.length = buffer.length ∧
      mdnsMultiquerySend sock query buffer buffer.length queryId =
        mdnsWriteQuestions buffer.length rclass query buffer' MDNS_HEADER_SIZE >>=
          fun r => mdnsSendPacket sock queryId r.1 r.2 := by
  have hroom : 0 + (mdnsQueryHeader queryId query.length).length ≤ buffer.length := by
    rw [not_or] at hguard
    exact le_trans (Nat.le_add_right _ _) (Nat.not_lt.mp hguard.2)
  refine ⟨if sock.mdnsPort then MDNS_CLASS_IN &&& ~~~MDNS_UNICAST_RESPONSE else MDNS_CLASS_IN,
    splice buffer 0 (mdnsQueryHeader queryId query.length), Memory.splice_length hroom, ?_⟩
  rw [mdnsMultiquerySend, if_neg hguard, Memory.store_of_le _ hroom]
  show (mdnsWriteQuestions _ _ _ _ _ >>= _) = _
  congr 1

lemma not_someCutShort_nil (capacity data : ℕ) : ¬ SomeCutShort capacity data [] := by
  rintro ⟨pre, q, post, hq, -⟩
  simp at hq

/-- Where a question is cut short, the loop runs over the end of the buffer. -/
lemma mdnsMultiquerySend_overruns (sock : MdnsSocket) {query : List MdnsQuery}
    (hname : ∀ q ∈ query, q.name ≠ []) {buffer : List U8}
    (h : ¬ KeepsInside buffer.length query) (queryId : U16) :
    mdnsMultiquerySend sock query buffer buffer.length queryId = .error .outOfBounds := by
  rw [KeepsInside, not_or, not_not, Nat.not_lt] at h
  obtain ⟨hroom, hcut⟩ := h
  have hne : query.length ≠ 0 := by
    intro h0
    obtain rfl := List.length_eq_zero_iff.mp h0
    exact not_someCutShort_nil _ _ hcut
  obtain ⟨rclass, buffer', hlen, hsend⟩ := mdnsMultiquerySend_eq sock
    (not_or.mpr ⟨hne, Nat.not_lt.mpr hroom⟩) queryId
  have hspec := mdnsWriteQuestions_spec rclass hname hlen
    (le_trans (Nat.le_add_right MDNS_HEADER_SIZE _) hroom)
  rw [hsend, hspec.overruns hcut]
  rfl

/-- Otherwise the packet is refused or handed on. -/
lemma builtInside_of_keepsInside (sock : MdnsSocket) {query : List MdnsQuery}
    (hname : ∀ q ∈ query, q.name ≠ []) {buffer : List U8} (h : KeepsInside buffer.length query)
    (queryId : U16) :
    BuiltInside buffer.length query queryId
      (mdnsMultiquerySend sock query buffer buffer.length queryId) := by
  -- the check before anything is written refuses the question
  by_cases hguard : query.length = 0 ∨ buffer.length < MDNS_HEADER_SIZE + 6 * query.length
  · refine ⟨⟨-1, none⟩, ?_, Or.inl rfl, fun _ => rfl⟩
    rw [mdnsMultiquerySend, if_pos hguard]
    rfl
  · obtain ⟨rclass, buffer', hlen, hsend⟩ := mdnsMultiquerySend_eq sock hguard queryId
    rw [not_or, Nat.not_lt] at hguard
    have hspec := mdnsWriteQuestions_spec rclass hname hlen
      (le_trans (Nat.le_add_right MDNS_HEADER_SIZE _) hguard.2)
    obtain ⟨buffer₂, stop, hr, hlen₂, hend, hshort⟩ :=
      hspec.writes (h.resolve_left (Nat.not_lt.mpr hguard.2))
    rw [hsend, hr]
    -- a name that does not fit, or a packet that ends inside the buffer
    cases stop with
    | none => exact ⟨⟨-1, none⟩, rfl, Or.inl rfl, fun _ => rfl⟩
    | some e =>
        have hfits : e ≤ buffer.length := by
          rw [hend e rfl]
          by_contra hlt
          exact absurd (hshort (Nat.not_le.mp hlt)) (by simp)
        have hslice := Memory.slice_of_le Fault.outOfBounds (m := buffer₂) (i := 0) (n := e)
          (by omega)
        refine ⟨⟨if sock.sends then queryId.toNat else -1, some ((buffer₂.drop 0).take e)⟩,
          ?_, ?_, fun hlt => absurd (hshort hlt) (by simp)⟩
        · show (Memory.slice _ _ _ _ >>= _) = _
          rw [hslice]
          rfl
        · cases sock.sends with
          | false => exact Or.inl rfl
          | true =>
              refine Or.inr ⟨rfl, _, rfl, ?_⟩
              rw [List.drop_zero, List.length_take, hlen₂, Nat.min_eq_left hfits, hend e rfl]

/-- **Query building keeps inside the buffer** exactly when the questions are refused
at once, or none of them has its name but not its type and class in the buffer. -/
theorem query_inside_iff (sock : MdnsSocket) {query : List MdnsQuery}
    (hname : ∀ q ∈ query, q.name ≠ []) (buffer : List U8) (queryId : U16) :
    BuiltInside buffer.length query queryId
        (mdnsMultiquerySend sock query buffer buffer.length queryId) ↔
      KeepsInside buffer.length query := by
  refine ⟨fun h => ?_, fun h => builtInside_of_keepsInside sock hname h queryId⟩
  by_contra hover
  obtain ⟨s, hs, -⟩ := h
  rw [mdnsMultiquerySend_overruns sock hname hover] at hs
  cases hs

/-- The query `tcp_discovery.c` sends keeps inside. -/
theorem query_inside_greybus :
    BuiltInside (List.replicate 100 (0 : U8)).length
        [⟨MDNS_RECORDTYPE_PTR, greybusService.spelled false⟩] 0
        (mdnsMultiquerySend ⟨false, true⟩ [⟨MDNS_RECORDTYPE_PTR, greybusService.spelled false⟩]
          (List.replicate 100 0) (List.replicate 100 (0 : U8)).length 0) ↔
      KeepsInside (List.replicate 100 (0 : U8)).length
        [⟨MDNS_RECORDTYPE_PTR, greybusService.spelled false⟩] :=
  query_inside_iff ⟨false, true⟩ (by simpa using greybusService.spelled_ne false) _ 0

/-- `mdns_query_send` keeps inside for every name but those whose packed form takes 85
to 88 bytes. -/
lemma querySend_keepsInside_iff (name : List U8) :
    KeepsInside MDNS_REQUEST_BUFFER_SIZE [⟨MDNS_RECORDTYPE_PTR, name⟩] ↔
      (packedName (nameLabels name)).length < 85 ∨ 88 < (packedName (nameLabels name)).length := by
  rw [KeepsInside, someCutShort_cons, CutShort, MdnsQuery.nameLength, MDNS_REQUEST_BUFFER_SIZE,
    MDNS_HEADER_SIZE, List.length_singleton]
  simp only [not_someCutShort_nil, or_false]
  omega

/-- A name of 83 letters fits with its two bytes, but the type and the class behind it
do not. -/
def overlongName : List U8 := List.replicate 83 0x61

lemma overlongName_packed : (packedName (nameLabels overlongName)).length = 85 := by
  decide +kernel

/-- `mdns_query_send` writes behind its buffer. -/
theorem query_overruns :
    ¬ ∀ (sock : MdnsSocket) (stack : Vector U8 MDNS_REQUEST_BUFFER_SIZE) (name : List U8),
      name ≠ [] → BuiltInside MDNS_REQUEST_BUFFER_SIZE [⟨MDNS_RECORDTYPE_PTR, name⟩] 0
        (mdnsQuerySend sock stack name) := by
  intro h
  have hne : overlongName ≠ [] := List.cons_ne_nil _ _
  have hover : ¬ KeepsInside MDNS_REQUEST_BUFFER_SIZE [⟨MDNS_RECORDTYPE_PTR, overlongName⟩] := by
    rw [querySend_keepsInside_iff, overlongName_packed]
    omega
  have hlen : (Vector.replicate MDNS_REQUEST_BUFFER_SIZE (0 : U8)).toList.length =
      MDNS_REQUEST_BUFFER_SIZE := Vector.length_toList
  have hfault := mdnsMultiquerySend_overruns ⟨false, true⟩ (by simpa using hne)
    (hlen ▸ hover) 0
  obtain ⟨s, hs, -⟩ := h ⟨false, true⟩ (Vector.replicate _ 0) overlongName hne
  rw [hlen] at hfault
  rw [mdnsQuerySend, hfault] at hs
  cases hs

end Cc1352Greybus
