import Cc1352Greybus.Mdns.Answer

/-!
`mdns_query_recv_internal`, and what its result may depend on.

Two arrays on its stack are never initialised: `buffer`, into which a datagram is
received, and the `namebuffer` of `mdns_answer_check`. The header is read before the
length of the datagram is looked at, and `namebuffer` is compared whatever was
written to it.

* `mdnsQueryRecvInternal_eq`: what is received, in terms of the records of the
  datagram and of `namebuffer`; what `buffer` held does not matter.
* `answerAny_of_settled`: when the comparisons of some records cannot depend on stale
  bytes, or their outcome does not.
* `recv_only_datagram_iff`: exactly then the result depends on the datagram only.
* `recv_stale`: a datagram that lets the stack decide.
-/

namespace Cc1352Greybus

open Memory (Reads splice)

/-! ### The model -/

/-- What `zsock_recvfrom` delivers when it returns more than zero. -/
structure MdnsDatagram where
  bytes : List U8
  source : BitVec 128
  bytes_ne : bytes ≠ []
  bytes_le : bytes.length ≤ MDNS_RESPONSE_BUFFER_SIZE

/-- The loop over the questions: the offset behind them, unless it is left early. -/
def mdnsSkipQuestions (buf : List U8) (size : ℕ) : ℕ → ℕ → Except Fault (Option ℕ)
  | 0, offset => pure (some offset)
  | questions + 1, offset => do
    let s ← mdnsStringSkip buf size offset
    if s.ret then mdnsSkipQuestions buf size questions (s.offset + 4) else pure none

/-- `mdns_query_recv_internal` up to its call of `mdns_answer_check`, and what it makes
of the result: the number of addresses, and `*addrptr`. -/
def mdnsQueryRecvWith (check : List U8 → ℕ → ℕ → ℕ → Except Fault (Bool × ℕ))
    (received : Option MdnsDatagram) (buffer : Vector U8 MDNS_RESPONSE_BUFFER_SIZE)
    (addr : BitVec 128) : Except Fault (ℕ × BitVec 128) :=
  match received with
  | none => pure (0, addr)
  | some d => do
    let buf := splice buffer.toList 0 d.bytes
    let questions ← mdnsNtohs buf 4
    let answerRrs ← mdnsNtohs buf 6
    match ← mdnsSkipQuestions buf d.bytes.length questions.toNat MDNS_HEADER_SIZE with
    | none => pure (0, addr)
    | some offset => do
      let r ← check buf d.bytes.length offset answerRrs.toNat
      if r.1 then pure (1, d.source) else pure (0, addr)

/-- `mdns_query_recv_internal`, over what its stack holds. -/
def mdnsQueryRecvInternal (received : Option MdnsDatagram)
    (buffer : Vector U8 MDNS_RESPONSE_BUFFER_SIZE) (namebuffer : Vector U8 MDNS_PTR_NAME_SIZE)
    (query : List U8) (addr : BitVec 128) : Except Fault (ℕ × BitVec 128) :=
  mdnsQueryRecvWith (fun buf size offset records =>
    mdnsAnswerCheck buf size offset records query namebuffer) received buffer addr

/-! ### The same with anything in place of stale bytes -/

/-- The loop of `mdns_answer_check` when the array holds anything at all before each
record. -/
def mdnsAnswerCheckAny (buf : List U8) (size : ℕ) (query : List U8) :
    ℕ → ℕ → (ℕ → Vector U8 MDNS_PTR_NAME_SIZE) → Except Fault (Bool × ℕ)
  | 0, offset, _ => pure (false, offset)
  | records + 1, offset, stale => do
    match ← mdnsAnswerRecord buf size query offset (stale 0).toList with
    | .done found offset => pure (found, offset)
    | .next offset _ => mdnsAnswerCheckAny buf size query records offset fun k => stale (k + 1)

/-- `mdns_query_recv_internal` with that loop. -/
def mdnsQueryRecvAny (received : Option MdnsDatagram)
    (buffer : Vector U8 MDNS_RESPONSE_BUFFER_SIZE) (stale : ℕ → Vector U8 MDNS_PTR_NAME_SIZE)
    (query : List U8) (addr : BitVec 128) : Except Fault (ℕ × BitVec 128) :=
  mdnsQueryRecvWith (fun buf size offset records =>
    mdnsAnswerCheckAny buf size query records offset stale) received buffer addr

/-- The result depends on the datagram, its source and the query only. -/
structure OnlyDatagram (d : MdnsDatagram) (query : List U8) (addr : BitVec 128) : Prop where
  /-- Two runs that start with different stacks end alike. -/
  stack : ∀ buffer buffer' namebuffer namebuffer',
    mdnsQueryRecvInternal (some d) buffer namebuffer query addr =
      mdnsQueryRecvInternal (some d) buffer' namebuffer' query addr
  /-- So do two that find different bytes wherever a record has written none. -/
  unwritten : ∀ buffer buffer' stale stale',
    mdnsQueryRecvAny (some d) buffer stale query addr =
      mdnsQueryRecvAny (some d) buffer' stale' query addr

/-! ### The records of a datagram -/

/-- The two counts of the header. -/
def mdnsCount (d : List U8) (i : ℕ) : ℕ := (ofLe16 (d.getD (i + 1) 0) (d.getD i 0)).toNat

/-- The records the walk over a datagram would come to. -/
def datagramVisits (d : List U8) : List MdnsVisit :=
  if d.length < MDNS_HEADER_SIZE then []
  else
    match mdnsSkipQuestions d d.length (mdnsCount d 4) MDNS_HEADER_SIZE with
    | .ok (some offset) => mdnsVisits d (mdnsCount d 6) offset
    | _ => []

/-- Behind the datagram there is no name to skip. -/
lemma mdnsStringSkip_behind {m : List U8} {size offset : ℕ} (h : size ≤ offset) :
    mdnsStringSkip m size offset = .ok ⟨false, offset, false⟩ := by
  have hnext : mdnsGetNextSubstring m size offset = .ok ⟨none, 0, false⟩ := if_pos h
  rw [mdnsStringSkip, mdnsStringSkipLoop, hnext]
  rfl

/-- Nor a record. -/
lemma mdnsVisits_behind {d : List U8} {offset : ℕ} (h : d.length ≤ offset)
    (hlt : offset + 10 < 2 ^ 32) (records : ℕ) : mdnsVisits d records offset = [] := by
  have hafter : mdnsOffsetAfter d offset = offset := by
    rw [mdnsOffsetAfter, mdnsStringSkip_behind h]
  cases records with
  | zero => rfl
  | succ records =>
      have hnone : mdnsVisitAt d offset = none := by
        simp only [mdnsVisitAt, hafter]
        rw [if_pos (by omega)]
      rw [mdnsVisits, hnone]

/-- The questions are skipped inside the datagram. -/
lemma reads_mdnsSkipQuestions (d : List U8) (questions offset : ℕ) : ∃ r : Option ℕ,
    Reads d (fun m => mdnsSkipQuestions m d.length questions offset) r ∧
      ∀ e, r = some e → e ≤ max offset (d.length + 4) := by
  induction questions generalizing offset with
  | zero => exact ⟨some offset, Reads.pure d _, by simp⟩
  | succ questions ih =>
      obtain ⟨s, ls, r, h⟩ := walksAlike d (MDNS_MAX_SUBSTRINGS + 1) offset none
      cases s with
      | none =>
          exact ⟨none, h.reads_skip.bind (Reads.ite (absurd · Bool.false_ne_true)
            fun _ => Reads.pure d _), by simp⟩
      | some e =>
          have hin := h.inside e.1 e.2 rfl
          obtain ⟨r', hr', hle⟩ := ih (e.1 + 4)
          refine ⟨r', h.reads_skip.bind (Reads.ite (fun _ => hr') fun hn => absurd rfl hn), ?_⟩
          intro e' he'
          have := hle e' he'
          omega

/-- What a result of the walk comes to for the caller. -/
def recvOutcome (d : MdnsDatagram) (addr : BitVec 128) (r : Except Fault Bool) :
    Except Fault (ℕ × BitVec 128) :=
  r.map fun found => if found then (1, d.source) else (0, addr)

lemma bind_recvOutcome (d : MdnsDatagram) (addr : BitVec 128) (x : Except Fault (Bool × ℕ)) :
    (x >>= fun r => if r.1 then pure (1, d.source) else pure (0, addr)) =
      recvOutcome d addr (x.map Prod.fst) := by
  cases x with
  | error e => rfl
  | ok r =>
      obtain ⟨found, offset⟩ := r
      cases found <;> rfl

/-- The datagram and what is left of the array behind it. -/
lemma splice_datagram (d : MdnsDatagram) (buffer : Vector U8 MDNS_RESPONSE_BUFFER_SIZE) :
    ∃ beyond, splice buffer.toList 0 d.bytes = d.bytes ++ beyond ∧
      d.bytes.length + beyond.length = MDNS_RESPONSE_BUFFER_SIZE := by
  refine ⟨buffer.toList.drop d.bytes.length, by simp [splice], ?_⟩
  rw [List.length_drop, Vector.length_toList]
  exact Nat.add_sub_cancel' d.bytes_le

/-- A datagram shorter than the header has no answers, whatever the array holds where
the header would be. -/
lemma mdnsQueryRecvWith_short {d : MdnsDatagram} (hshort : d.bytes.length < MDNS_HEADER_SIZE)
    {check : List U8 → ℕ → ℕ → ℕ → Except Fault (Bool × ℕ)} {addr : BitVec 128}
    (buffer : Vector U8 MDNS_RESPONSE_BUFFER_SIZE)
    (hcheck : ∀ beyond, d.bytes.length + beyond.length = MDNS_RESPONSE_BUFFER_SIZE →
      ∀ records, (check (d.bytes ++ beyond) d.bytes.length MDNS_HEADER_SIZE records).map Prod.fst =
        .ok false) :
    mdnsQueryRecvWith check (some d) buffer addr = .ok (0, addr) := by
  obtain ⟨beyond, hbuf, hmem⟩ := splice_datagram d buffer
  have hlen : (d.bytes ++ beyond).length = MDNS_RESPONSE_BUFFER_SIZE := by
    rw [List.length_append, hmem]
  have hcount : ∀ i, i + 1 < MDNS_RESPONSE_BUFFER_SIZE →
      ∃ n, mdnsNtohs (d.bytes ++ beyond) i = .ok n := fun i hi =>
    ⟨_, (reads_mdnsNtohs (d := d.bytes ++ beyond) (i := i) (by rw [hlen]; exact hi)).eq⟩
  obtain ⟨questions, hq⟩ := hcount 4 (by decide)
  obtain ⟨answers, ha⟩ := hcount 6 (by decide)
  rw [mdnsQueryRecvWith]
  simp only [hbuf, hq, ha]
  show (mdnsSkipQuestions _ _ _ _ >>= _) = _
  cases questions.toNat with
  | zero =>
      show (check _ _ _ _ >>= fun r => if r.1 then pure (1, d.source) else pure (0, addr)) = _
      rw [bind_recvOutcome, hcheck beyond hmem]
      rfl
  | succ n =>
      rw [mdnsSkipQuestions, mdnsStringSkip_behind hshort.le]
      rfl

/-- Otherwise the answers are those of the records behind its questions. -/
lemma mdnsQueryRecvWith_long {d : MdnsDatagram} (hlong : MDNS_HEADER_SIZE ≤ d.bytes.length)
    {check : List U8 → ℕ → ℕ → ℕ → Except Fault (Bool × ℕ)} {addr : BitVec 128}
    (buffer : Vector U8 MDNS_RESPONSE_BUFFER_SIZE) {ends : List MdnsVisit → Except Fault Bool}
    (hnil : ends [] = .ok false)
    (hcheck : ∀ beyond, d.bytes.length + beyond.length = MDNS_RESPONSE_BUFFER_SIZE →
      ∀ offset records, (check (d.bytes ++ beyond) d.bytes.length offset records).map Prod.fst =
        ends (mdnsVisits d.bytes records offset)) :
    mdnsQueryRecvWith check (some d) buffer addr =
      recvOutcome d addr (ends (datagramVisits d.bytes)) := by
  obtain ⟨beyond, hbuf, hmem⟩ := splice_datagram d buffer
  have hheader : 12 ≤ d.bytes.length := hlong
  have hcount : ∀ i, (hi : i + 1 < d.bytes.length) →
      mdnsNtohs (d.bytes ++ beyond) i =
        .ok (ofLe16 (d.bytes.getD (i + 1) 0) (d.bytes.getD i 0)) := by
    intro i hi
    have hr : mdnsNtohs (d.bytes ++ beyond) i = .ok _ := reads_mdnsNtohs hi beyond
    rw [hr]
    simp [hi, Nat.lt_of_succ_lt hi]
  rw [mdnsQueryRecvWith, datagramVisits, if_neg (Nat.not_lt.mpr hlong)]
  simp only [hbuf, hcount 4 (by omega), hcount 6 (by omega)]
  show (mdnsSkipQuestions _ _ (mdnsCount d.bytes 4) _ >>= _) = _
  obtain ⟨r, hr, -⟩ := reads_mdnsSkipQuestions d.bytes (mdnsCount d.bytes 4) MDNS_HEADER_SIZE
  have hskip : mdnsSkipQuestions (d.bytes ++ beyond) d.bytes.length (mdnsCount d.bytes 4)
      MDNS_HEADER_SIZE = .ok r := hr beyond
  rw [hskip, hr.eq]
  cases r with
  | none => exact (congrArg (recvOutcome d addr) hnil).symm
  | some offset =>
      show (check _ _ _ _ >>= fun r => if r.1 then pure (1, d.source) else pure (0, addr)) = _
      rw [bind_recvOutcome, hcheck beyond hmem]
      rfl

/-- **What is received**, in terms of the records of the datagram. -/
lemma mdnsQueryRecvWith_eq {d : MdnsDatagram}
    {check : List U8 → ℕ → ℕ → ℕ → Except Fault (Bool × ℕ)} {addr : BitVec 128}
    (buffer : Vector U8 MDNS_RESPONSE_BUFFER_SIZE) (ends : List MdnsVisit → Except Fault Bool)
    (hnil : ends [] = .ok false)
    (hcheck : ∀ beyond, d.bytes.length + beyond.length = MDNS_RESPONSE_BUFFER_SIZE →
      ∀ offset records, (check (d.bytes ++ beyond) d.bytes.length offset records).map Prod.fst =
        ends (mdnsVisits d.bytes records offset)) :
    mdnsQueryRecvWith check (some d) buffer addr =
      recvOutcome d addr (ends (datagramVisits d.bytes)) := by
  by_cases hshort : d.bytes.length < MDNS_HEADER_SIZE
  · have hvisits : datagramVisits d.bytes = [] := if_pos hshort
    rw [hvisits, hnil]
    refine mdnsQueryRecvWith_short hshort buffer fun beyond hmem records => ?_
    rw [hcheck beyond hmem, mdnsVisits_behind hshort.le (by decide), hnil]
  · exact mdnsQueryRecvWith_long (Nat.not_lt.mp hshort) buffer hnil hcheck

/-! ### The comparisons, over anything -/

namespace MdnsVisit

/-- A record whose comparisons come to an end. -/
def Keyed (query namebuffer : List U8) : MdnsVisit → Prop
  | name text _ => mdnsKey query <+: splice namebuffer 0 text
  | _ => False

/-- A record whose comparisons do so by its own bytes. -/
def Sure (query : List U8) : MdnsVisit → Prop
  | name text _ => mdnsKey query <+: text
  | _ => False

/-- A record whose bytes leave it to those behind them. -/
def Open (query : List U8) : MdnsVisit → Prop
  | name text _ => text <+: mdnsKey query ∧ text ≠ mdnsKey query
  | _ => False

instance (query namebuffer : List U8) (v : MdnsVisit) : Decidable (v.Keyed query namebuffer) :=
  match v with
  | name _ _ => inferInstanceAs (Decidable (_ <+: _))
  | wild => inferInstanceAs (Decidable False)
  | outside => inferInstanceAs (Decidable False)
  | short => inferInstanceAs (Decidable False)

variable {query : List U8} {v : MdnsVisit}

lemma Sure.keyed (h : v.Sure query) (namebuffer : List U8) : v.Keyed query namebuffer := by
  cases v with
  | name text complete => exact Memory.prefix_splice_iff.mpr (Or.inl h)
  | wild => exact h.elim
  | outside => exact h.elim
  | short => exact h.elim

/-- A record that leaves nothing to other bytes. -/
lemma not_keyed_of_closed (hsure : ¬ v.Sure query) (hopen : ¬ v.Open query) (namebuffer : List U8) :
    ¬ v.Keyed query namebuffer := by
  cases v with
  | name text complete =>
      intro hkey
      cases Memory.prefix_splice_iff.mp hkey with
      | inl h => exact hsure h
      | inr h =>
          obtain ⟨rest, hrest, -⟩ := h
          refine hopen ⟨⟨rest, hrest.symm⟩, fun htext => hsure ?_⟩
          rw [Sure, htext]
  | wild => exact id
  | outside => exact id
  | short => exact id

/-- One that does is won by the right bytes -/
lemma Open.keyed (h : v.Open query) {namebuffer : List U8} (hkey : mdnsKey query <+: namebuffer) :
    v.Keyed query namebuffer := by
  cases v with
  | name text complete =>
      obtain ⟨rest, hrest⟩ := h.1
      refine Memory.prefix_splice_iff.mpr (Or.inr ⟨rest, hrest.symm, ?_⟩)
      rw [← hrest] at hkey
      exact (Memory.append_prefix_iff.mp hkey).2
  | wild => exact h.elim
  | outside => exact h.elim
  | short => exact h.elim

/-- and lost by wrong ones. -/
lemma not_keyed_of_other (hsure : ¬ v.Sure query) {namebuffer : List U8}
    (hother : (mdnsKey query).map (~~~ ·) <+: namebuffer) : ¬ v.Keyed query namebuffer := by
  cases v with
  | name text complete =>
      intro hkey
      cases Memory.prefix_splice_iff.mp hkey with
      | inl h => exact hsure h
      | inr h =>
          obtain ⟨rest, hrest, hsame⟩ := h
          cases rest with
          | nil => exact hsure (by rw [Sure, hrest, List.append_nil])
          | cons c rest =>
              rw [hrest, List.map_append] at hother
              have hdiff := (Memory.append_prefix_iff.mp hother).2
              rw [List.length_map] at hdiff
              obtain ⟨s, hs⟩ := hsame
              obtain ⟨s', hs'⟩ := hdiff
              have hheads := hs.trans hs'.symm
              simp only [List.map_cons, List.cons_append] at hheads
              have hc := (List.cons.inj hheads).1
              bv_omega
  | wild => exact id
  | outside => exact id
  | short => exact id

end MdnsVisit

/-- How the walk over some records ends when the array holds anything before each. -/
def answerAny (query : List U8) : List MdnsVisit → (ℕ → List U8) → Except Fault Bool
  | [], _ => .ok false
  | v :: vs, stale =>
    if v = .wild then .error .outOfBounds
    else if v = .short then .error .nullPointer
    else if v.Keyed query (stale 0) then mdnsWon query
    else answerAny query vs fun k => stale (k + 1)

lemma answerAny_name (query text : List U8) (complete : Bool) (vs : List MdnsVisit)
    (stale : ℕ → List U8) :
    answerAny query (.name text complete :: vs) stale =
      if mdnsKey query <+: splice (stale 0) 0 text then mdnsWon query
      else answerAny query vs fun k => stale (k + 1) := rfl

/-- How it ends when no comparison does. -/
def answerLost : List MdnsVisit → Except Fault Bool
  | [] => .ok false
  | v :: vs =>
    if v = .wild then .error .outOfBounds
    else if v = .short then .error .nullPointer
    else answerLost vs

/-- Only the last record can end the walk by a fault. -/
def FaultsLast (vs : List MdnsVisit) : Prop := ∀ v ∈ vs.dropLast, ¬ v.Faults

lemma FaultsLast.tail {v : MdnsVisit} {vs : List MdnsVisit} (h : FaultsLast (v :: vs)) :
    FaultsLast vs := by
  cases vs with
  | nil => intro u hu; simp at hu
  | cons w ws => exact fun u hu => h u (by simp [hu])

/-- A record in front of others does not. -/
lemma FaultsLast.head {v u : MdnsVisit} {vs : List MdnsVisit} (h : FaultsLast (v :: vs))
    (hu : u ∈ vs) : ¬ v.Faults := by
  cases vs with
  | nil => simp at hu
  | cons w ws => exact h v (by simp)

/-- **A comparison that is won anyhow** decides the walk. -/
lemma answerAny_of_keyed {query : List U8} {vs : List MdnsVisit} (hlast : FaultsLast vs)
    {u : MdnsVisit} (hu : u ∈ vs) {stale : ℕ → List U8} (hkey : ∀ k, u.Keyed query (stale k)) :
    answerAny query vs stale = mdnsWon query := by
  induction vs generalizing stale with
  | nil => simp at hu
  | cons v vs ih =>
      have hgoesOn : ¬ v.Faults := by
        cases List.mem_cons.mp hu with
        | inl h =>
            subst h
            rintro (rfl | rfl) <;> exact hkey 0
        | inr h => exact hlast.head h
      rw [MdnsVisit.Faults, not_or] at hgoesOn
      rw [answerAny, if_neg hgoesOn.1, if_neg hgoesOn.2]
      by_cases hv : v.Keyed query (stale 0)
      · rw [if_pos hv]
      · rw [if_neg hv]
        have hne : u ≠ v := fun h => hv (h ▸ hkey 0)
        exact ih hlast.tail ((List.mem_cons.mp hu).resolve_left hne) fun k => hkey (k + 1)

/-- Without one it ends as if nothing were compared. -/
lemma answerAny_of_not_keyed {query : List U8} {vs : List MdnsVisit} {stale : ℕ → List U8}
    (h : ∀ v ∈ vs, ∀ k, ¬ v.Keyed query (stale k)) : answerAny query vs stale = answerLost vs := by
  induction vs generalizing stale with
  | nil => rfl
  | cons v vs ih =>
      have hrest : answerAny query vs (fun k => stale (k + 1)) = answerLost vs :=
        ih fun u hu k => h u (by simp [hu]) (k + 1)
      rw [answerAny, answerLost, if_neg (h v (by simp) 0), hrest]

/-- The two ends are not the same. -/
lemma answerLost_ne_won {vs : List MdnsVisit} (hwild : MdnsVisit.wild ∉ vs) (query : List U8) :
    answerLost vs ≠ mdnsWon query := by
  induction vs with
  | nil =>
      rw [answerLost, mdnsWon]
      split_ifs <;> simp
  | cons v vs ih =>
      rw [List.mem_cons, not_or] at hwild
      rw [answerLost, if_neg (Ne.symm hwild.1)]
      split_ifs
      · rw [mdnsWon]
        split_ifs <;> simp
      · exact ih hwild.2

/-! ### When the outcome is settled -/

/-- A record carries the name asked for by its own bytes, or none leaves the comparisons
to bytes it has not written. -/
def OutcomeSettled (query : List U8) (vs : List MdnsVisit) : Prop :=
  (∃ v ∈ vs, v.Sure query) ∨ ∀ v ∈ vs, ¬ v.Open query

/-- **Then nothing else decides** how the walk ends. -/
lemma answerAny_of_settled {query : List U8} {vs : List MdnsVisit} (hlast : FaultsLast vs)
    (h : OutcomeSettled query vs) (stale stale' : ℕ → List U8) :
    answerAny query vs stale = answerAny query vs stale' := by
  by_cases hsure : ∃ v ∈ vs, v.Sure query
  · obtain ⟨v, hv, hsure⟩ := hsure
    have hwon : ∀ stale, answerAny query vs stale = mdnsWon query := fun stale =>
      answerAny_of_keyed hlast hv fun k => hsure.keyed (stale k)
    rw [hwon, hwon]
  · have hlost : ∀ stale, answerAny query vs stale = answerLost vs := fun stale =>
      answerAny_of_not_keyed fun v hv k => MdnsVisit.not_keyed_of_closed
        (fun hs => hsure ⟨v, hv, hs⟩) (h.resolve_left hsure v hv) (stale k)
    rw [hlost, hlost]

/-- Some array starts with some bytes. -/
lemma exists_namebuffer {bs : List U8} (h : bs.length ≤ MDNS_PTR_NAME_SIZE) :
    ∃ namebuffer : Vector U8 MDNS_PTR_NAME_SIZE, bs <+: namebuffer.toList := by
  have hlen : (bs ++ List.replicate (MDNS_PTR_NAME_SIZE - bs.length) 0).length =
      MDNS_PTR_NAME_SIZE := by
    rw [List.length_append, List.length_replicate, Nat.add_sub_cancel' h]
  refine ⟨⟨(bs ++ List.replicate (MDNS_PTR_NAME_SIZE - bs.length) 0).toArray, hlen⟩, ?_⟩
  exact List.prefix_append _ _

lemma mdnsKey_length (query : List U8) : (mdnsKey query).length ≤ MDNS_PTR_NAME_SIZE := by
  rw [mdnsKey]
  split_ifs with h
  · rwa [List.length_append]
  · decide

/-- **Otherwise the array decides.** -/
lemma exists_answerAny_ne {query : List U8} {vs : List MdnsVisit} (hlast : FaultsLast vs)
    (hwild : MdnsVisit.wild ∉ vs) (h : ¬ OutcomeSettled query vs) :
    ∃ won lost : Vector U8 MDNS_PTR_NAME_SIZE,
      answerAny query vs (fun _ => won.toList) ≠ answerAny query vs (fun _ => lost.toList) := by
  rw [OutcomeSettled, not_or] at h
  push Not at h
  obtain ⟨hsure, v, hv, hopen⟩ := h
  obtain ⟨won, hwon⟩ := exists_namebuffer (mdnsKey_length query)
  obtain ⟨lost, hlost⟩ := exists_namebuffer
    (show ((mdnsKey query).map (~~~ ·)).length ≤ _ by
      rw [List.length_map]; exact mdnsKey_length query)
  refine ⟨won, lost, ?_⟩
  rw [answerAny_of_keyed hlast hv fun _ => hopen.keyed hwon,
    answerAny_of_not_keyed fun u hu _ => MdnsVisit.not_keyed_of_other (hsure u hu) hlost]
  exact (answerLost_ne_won hwild query).symm

/-! ### The walk over a datagram -/

/-- A fault ends the records. -/
lemma faultsLast_mdnsVisits (d : List U8) (records offset : ℕ) :
    FaultsLast (mdnsVisits d records offset) := by
  induction records generalizing offset with
  | zero => intro v hv; simp [mdnsVisits] at hv
  | succ records ih =>
      rw [mdnsVisits]
      cases mdnsVisitAt d offset with
      | none => intro v hv; simp at hv
      | some vn =>
          obtain ⟨v, next⟩ := vn
          by_cases hfault : v.Faults
          · simp only [if_pos hfault]
            intro u hu
            simp at hu
          · simp only [if_neg hfault]
            intro u hu
            cases hrest : mdnsVisits d records next with
            | nil => simp [hrest] at hu
            | cons w ws =>
                have hu' : u = v ∨ u ∈ (w :: ws).dropLast := by simpa [hrest] using hu
                cases hu' with
                | inl h => exact h ▸ hfault
                | inr h => exact ih next u (hrest ▸ h)

/-- No record lies so far behind the datagram that an offset overflows. -/
lemma wild_not_mem_mdnsVisits {d : List U8} (hd : d.length ≤ MDNS_RESPONSE_BUFFER_SIZE)
    (records : ℕ) {offset : ℕ} (hoffset : offset ≤ d.length + 2 ^ 16) :
    MdnsVisit.wild ∉ mdnsVisits d records offset := by
  induction records generalizing offset with
  | zero => simp [mdnsVisits]
  | succ records ih =>
      obtain ⟨s, -, -, hafter⟩ := reads_mdnsOffsetAfter d offset
      rw [MDNS_RESPONSE_BUFFER_SIZE] at hd
      have hmod : (mdnsOffsetAfter d offset + 10) % 2 ^ 32 = mdnsOffsetAfter d offset + 10 :=
        Nat.mod_eq_of_lt (by omega)
      rw [mdnsVisits]
      cases hv : mdnsVisitAt d offset with
      | none => simp
      | some vn =>
          obtain ⟨v, next⟩ := vn
          have hstep : v ≠ .wild ∧ next ≤ d.length + 2 ^ 16 := by
            simp only [mdnsVisitAt, hmod] at hv
            have hlength := (ofLe16 (d.getD (mdnsOffsetAfter d offset + 9) 0)
              (d.getD (mdnsOffsetAfter d offset + 8) 0)).isLt
            split_ifs at hv <;> cases hv <;> exact ⟨by simp, by omega⟩
          show MdnsVisit.wild ∉ if v.Faults then [v] else v :: mdnsVisits d records next
          split_ifs
          · simpa using hstep.1.symm
          · rw [List.mem_cons, not_or]
            exact ⟨hstep.1.symm, ih hstep.2⟩

/-- The records of a datagram are as its walk needs them. -/
lemma datagramVisits_walk (d : MdnsDatagram) :
    FaultsLast (datagramVisits d.bytes) ∧ MdnsVisit.wild ∉ datagramVisits d.bytes := by
  have hnone : FaultsLast [] ∧ MdnsVisit.wild ∉ ([] : List MdnsVisit) :=
    ⟨by simp [FaultsLast], by simp⟩
  rw [datagramVisits]
  split_ifs with hshort
  · exact hnone
  · obtain ⟨r, hr, hle⟩ := reads_mdnsSkipQuestions d.bytes (mdnsCount d.bytes 4) MDNS_HEADER_SIZE
    rw [hr.eq]
    cases r with
    | none => exact hnone
    | some offset =>
        have hoffset := hle offset rfl
        rw [MDNS_HEADER_SIZE] at hoffset
        exact ⟨faultsLast_mdnsVisits _ _ _, wild_not_mem_mdnsVisits d.bytes_le _ (by omega)⟩

/-- The walk with anything in place of stale bytes, in terms of the records. -/
lemma mdnsAnswerCheckAny_eq {d beyond : List U8}
    (hmem : d.length + beyond.length ≤ MDNS_RESPONSE_BUFFER_SIZE) (query : List U8)
    (records offset : ℕ) (stale : ℕ → Vector U8 MDNS_PTR_NAME_SIZE) :
    (mdnsAnswerCheckAny (d ++ beyond) d.length query records offset stale).map Prod.fst =
      answerAny query (mdnsVisits d records offset) fun k => (stale k).toList := by
  induction records generalizing offset stale with
  | zero => rfl
  | succ records ih =>
      have hrecord := mdnsAnswerRecord_eq hmem query offset (stale 0).length_toList
      rw [mdnsAnswerCheckAny, hrecord, mdnsVisits]
      cases mdnsVisitAt d offset with
      | none => rfl
      | some vn =>
          obtain ⟨v, next⟩ := vn
          cases v with
          | wild => rfl
          | short => rfl
          | outside => exact ih next fun k => stale (k + 1)
          | name text complete =>
              have hgoesOn : ¬ (MdnsVisit.name text complete).Faults := by simp [MdnsVisit.Faults]
              simp only [if_neg hgoesOn, recordOver, answerAny_name]
              by_cases hkey : mdnsKey query <+: splice (stale 0).toList 0 text
              · simp only [if_pos hkey, mdnsWon]
                split_ifs <;> rfl
              · simp only [if_neg hkey]
                exact ih next fun k => stale (k + 1)

/-- The walk as it is: what a record finds is what the records before it have left. -/
lemma exists_answerOver_eq (query : List U8) (vs : List MdnsVisit) (namebuffer : List U8) :
    ∃ stale, answerOver query vs namebuffer = answerAny query vs stale := by
  induction vs generalizing namebuffer with
  | nil => exact ⟨fun _ => namebuffer, rfl⟩
  | cons v vs ih =>
      obtain ⟨stale, hstale⟩ := ih (v.leaves namebuffer)
      refine ⟨fun | 0 => namebuffer | k + 1 => stale k, ?_⟩
      cases v with
      | wild => rfl
      | short => rfl
      | outside => exact hstale
      | name text complete =>
          rw [answerAny_name, ← hstale]
          rfl

/-- **What is received.** -/
theorem mdnsQueryRecvInternal_eq (d : MdnsDatagram) (buffer : Vector U8 MDNS_RESPONSE_BUFFER_SIZE)
    (namebuffer : Vector U8 MDNS_PTR_NAME_SIZE) (query : List U8) (addr : BitVec 128) :
    mdnsQueryRecvInternal (some d) buffer namebuffer query addr =
      recvOutcome d addr (answerOver query (datagramVisits d.bytes) namebuffer.toList) :=
  mdnsQueryRecvWith_eq buffer (fun vs => answerOver query vs namebuffer.toList) rfl
    fun _ hmem offset records =>
      mdnsAnswerCheckLoop_eq hmem.le query records offset namebuffer.length_toList

lemma mdnsQueryRecvAny_eq (d : MdnsDatagram) (buffer : Vector U8 MDNS_RESPONSE_BUFFER_SIZE)
    (stale : ℕ → Vector U8 MDNS_PTR_NAME_SIZE) (query : List U8) (addr : BitVec 128) :
    mdnsQueryRecvAny (some d) buffer stale query addr =
      recvOutcome d addr (answerAny query (datagramVisits d.bytes) fun k => (stale k).toList) :=
  mdnsQueryRecvWith_eq buffer (fun vs => answerAny query vs fun k => (stale k).toList) rfl
    fun _ hmem offset records => mdnsAnswerCheckAny_eq hmem.le query records offset stale

/-- What is received tells how the walk has ended. -/
lemma recvOutcome_injective (d : MdnsDatagram) (addr : BitVec 128) :
    Function.Injective (recvOutcome d addr) := by
  intro r r' h
  cases r with
  | error e =>
      cases r' with
      | error e' => simpa [recvOutcome, Except.map] using h
      | ok found' => cases found' <;> simp [recvOutcome, Except.map] at h
  | ok found =>
      cases r' with
      | error e' => cases found <;> simp [recvOutcome, Except.map] at h
      | ok found' => cases found <;> cases found' <;> simp [recvOutcome, Except.map] at h ⊢

/-- **Only the datagram** decides what is received exactly when one of its records carries
the name asked for by its own bytes, or none leaves the comparisons to bytes it has not
written. -/
theorem recv_only_datagram_iff (d : MdnsDatagram) (query : List U8) (addr : BitVec 128) :
    OnlyDatagram d query addr ↔ OutcomeSettled query (datagramVisits d.bytes) := by
  obtain ⟨hlast, hwild⟩ := datagramVisits_walk d
  refine ⟨fun h => ?_, fun h => ⟨?_, ?_⟩⟩
  · by_contra hno
    obtain ⟨won, lost, hne⟩ := exists_answerAny_ne hlast hwild hno
    have hsame := h.unwritten (Vector.replicate _ 0) (Vector.replicate _ 0) (fun _ => won)
      fun _ => lost
    rw [mdnsQueryRecvAny_eq, mdnsQueryRecvAny_eq] at hsame
    exact hne (recvOutcome_injective d addr hsame)
  · intro buffer buffer' namebuffer namebuffer'
    obtain ⟨stale, hstale⟩ := exists_answerOver_eq query (datagramVisits d.bytes) namebuffer.toList
    obtain ⟨stale', hstale'⟩ :=
      exists_answerOver_eq query (datagramVisits d.bytes) namebuffer'.toList
    rw [mdnsQueryRecvInternal_eq, mdnsQueryRecvInternal_eq, hstale, hstale',
      answerAny_of_settled hlast h stale stale']
  · intro buffer buffer' stale stale'
    rw [mdnsQueryRecvAny_eq, mdnsQueryRecvAny_eq, answerAny_of_settled hlast h]

/-- A datagram with a record whose data is no name. -/
def unnamedDatagram : MdnsDatagram where
  bytes := oneRecord [0xC0, 0xFF]
  source := 1
  bytes_ne := by decide
  bytes_le := by decide

lemma unnamedDatagram_visits : datagramVisits unnamedDatagram.bytes = [.name [] false] := by
  decide +kernel

/-- On it the stack decides. -/
theorem recv_stale :
    ¬ ∀ (d : MdnsDatagram) (query : List U8) (addr : BitVec 128) buffer buffer' namebuffer
      namebuffer', mdnsQueryRecvInternal (some d) buffer namebuffer query addr =
        mdnsQueryRecvInternal (some d) buffer' namebuffer' query addr := by
  intro h
  have hopen : (MdnsVisit.name [] false).Open greybusService.text :=
    ⟨List.nil_prefix, by decide⟩
  obtain ⟨won, hwon⟩ := exists_namebuffer (mdnsKey_length greybusService.text)
  have hkey : mdnsKey greybusService.text <+: splice won.toList 0 [] := hopen.keyed hwon
  have hlost : ¬ mdnsKey greybusService.text <+:
      splice (Vector.replicate MDNS_PTR_NAME_SIZE (0 : U8)).toList 0 [] := by decide
  have hsame := h unnamedDatagram greybusService.text 0 (Vector.replicate _ 0)
    (Vector.replicate _ 0) won (Vector.replicate _ 0)
  rw [mdnsQueryRecvInternal_eq, mdnsQueryRecvInternal_eq, unnamedDatagram_visits] at hsame
  have hends := recvOutcome_injective unnamedDatagram 0 hsame
  simp only [answerOver, if_pos hkey, if_neg hlost] at hends
  exact absurd hends (by decide)

end Cc1352Greybus
