import Cc1352Greybus.Mdns.Query

/-!
`mdns_answer_check`: is one of the records of an answer the service asked for?

Every record is taken for a PTR record. Its data is extracted into one array on the
stack, which is compared with the name asked for whatever came of the extraction: an
extraction that fails leaves in the array what it has written by then, in front of
what the earlier records and the stack have left there.

* `mdnsVisits`: the records of a datagram, as the walk would come to them if no
  comparison ended it.
* `mdnsAnswerCheck_eq`: the walk, in terms of the visits and the array alone.
* `answer_check_iff`: it reports exactly the records that carry the name asked for,
  exactly when no record is too short and no comparison is won by stale bytes.
* `answer_check_null`: a record of no bytes is compared through a null pointer.
-/

namespace Cc1352Greybus

open Memory (Reads splice)

/-! ### The model -/

/-- `MDNS_RESPONSE_BUFFER_SIZE` -/
def MDNS_RESPONSE_BUFFER_SIZE : ℕ := 100

/-- `MDNS_PTR_NAME_SIZE` -/
def MDNS_PTR_NAME_SIZE : ℕ := 100

/-- `expected`, up to its end mark: `"zephyr."`. -/
def mdnsExpected : List U8 := [0x7A, 0x65, 0x70, 0x68, 0x79, 0x72, 0x2E]

/-- `memcmp`, of all the bytes of `s`: whether they are equal. -/
def mdnsMemcmp (s str : List U8) (pos : ℕ) : Except Fault Bool := do
  let bytes ← Memory.slice .outOfBounds str pos s.length
  pure (s = bytes)

/-- `mdns_record_parse_ptr`: `none` is the string at `NULL`. -/
def mdnsRecordParsePtr (buf : List U8) (size offset length : ℕ) (strbuffer : List U8)
    (capacity : ℕ) : Except Fault (Option MdnsExtracted) :=
  if offset + length ≤ size ∧ 2 ≤ length then do
    let x ← mdnsStringExtract buf size offset strbuffer capacity
    pure (some x)
  else pure none

/-- What the body of the loop comes to: it returns, with `*offset`, or goes on to the
next record with what is then in `namebuffer`. -/
inductive MdnsRecord
  | done (found : Bool) (offset : ℕ)
  | next (offset : ℕ) (namebuffer : List U8)

/-- The comparisons of a record, through the string its data was parsed to. -/
def mdnsCompareName (query : List U8) (offset length : ℕ) :
    Option MdnsExtracted → Except Fault MdnsRecord
  | none => .error .nullPointer
  | some x => do
    let first ← mdnsMemcmp mdnsExpected x.str 0
    let second ← if first then mdnsMemcmp query x.str mdnsExpected.length else pure false
    if second then pure (.done true offset) else pure (.next (offset + length) x.str)

/-- The body of the loop of `mdns_answer_check`. The comparison of the offset with the
size is made in `size_t`. -/
def mdnsAnswerRecord (buf : List U8) (size : ℕ) (query : List U8) (offset : ℕ)
    (namebuffer : List U8) : Except Fault MdnsRecord := do
  let skipped ← mdnsStringSkip buf size offset
  let offset := skipped.offset
  if size < (offset + 10) % 2 ^ 32 then pure (.done false offset)
  else do
    let length ← mdnsNtohs buf (offset + 8)
    let offset := offset + 10
    if length.toNat ≤ size - offset then do
      let namestr ← mdnsRecordParsePtr buf size offset length.toNat namebuffer MDNS_PTR_NAME_SIZE
      mdnsCompareName query offset length.toNat namestr
    else pure (.next (offset + length.toNat) namebuffer)

/-- The loop of `mdns_answer_check`. -/
def mdnsAnswerCheckLoop (buf : List U8) (size : ℕ) (query : List U8) :
    ℕ → ℕ → List U8 → Except Fault (Bool × ℕ)
  | 0, offset, _ => pure (false, offset)
  | records + 1, offset, namebuffer => do
    match ← mdnsAnswerRecord buf size query offset namebuffer with
    | .done found offset => pure (found, offset)
    | .next offset namebuffer => mdnsAnswerCheckLoop buf size query records offset namebuffer

/-- `mdns_answer_check`, over what the stack holds at `namebuffer`: the result and
`*offset`. -/
def mdnsAnswerCheck (buf : List U8) (size offset records : ℕ) (query : List U8)
    (namebuffer : Vector U8 MDNS_PTR_NAME_SIZE) : Except Fault (Bool × ℕ) :=
  mdnsAnswerCheckLoop buf size query records offset namebuffer.toList

/-! ### The records of a datagram -/

/-- What the walk finds at a record. -/
inductive MdnsVisit
  /-- the place of its length is taken for inside by an overflow -/
  | wild
  /-- its data does not lie in the datagram -/
  | outside
  /-- its data has fewer than two bytes -/
  | short
  /-- the bytes its data makes the extraction write, and whether they are a name -/
  | name (text : List U8) (complete : Bool)
  deriving DecidableEq

/-- Where skipping at an offset leaves `*offset`. -/
def mdnsOffsetAfter (d : List U8) (offset : ℕ) : ℕ :=
  match mdnsStringSkip d d.length offset with
  | .ok s => s.offset
  | .error _ => offset

/-- What extracting at an offset writes, and whether it gets to the end of the name. -/
def mdnsTextAt (d : List U8) (offset : ℕ) : List U8 × Bool :=
  match mdnsStringExtractLoop d d.length (MDNS_MAX_SUBSTRINGS + 1) offset none
    ⟨List.replicate MDNS_PTR_NAME_SIZE 0, 0, MDNS_PTR_NAME_SIZE⟩ with
  | .ok r => (r.2.str.take r.2.dst, r.1.isSome)
  | .error _ => ([], false)

/-- What the walk finds at the record at an offset, and where the next one is; nothing
if the datagram ends before. -/
def mdnsVisitAt (d : List U8) (offset : ℕ) : Option (MdnsVisit × ℕ) :=
  let header := mdnsOffsetAfter d offset
  if d.length < (header + 10) % 2 ^ 32 then none
  else if d.length < header + 10 then some (.wild, 0)
  else
    let length := (ofLe16 (d.getD (header + 9) 0) (d.getD (header + 8) 0)).toNat
    if length ≤ d.length - (header + 10) then
      if 2 ≤ length then
        some (.name (mdnsTextAt d (header + 10)).1 (mdnsTextAt d (header + 10)).2,
          header + 10 + length)
      else some (.short, header + 10 + length)
    else some (.outside, header + 10 + length)

/-- The walk does not get past such a record. -/
def MdnsVisit.Faults (v : MdnsVisit) : Prop := v = .wild ∨ v = .short

instance (v : MdnsVisit) : Decidable v.Faults := inferInstanceAs (Decidable (_ ∨ _))

/-- The records of a datagram from an offset on. -/
def mdnsVisits (d : List U8) : ℕ → ℕ → List MdnsVisit
  | 0, _ => []
  | records + 1, offset =>
    match mdnsVisitAt d offset with
    | none => []
    | some (v, next) => if v.Faults then [v] else v :: mdnsVisits d records next

/-- The array after a record. -/
def MdnsVisit.leaves (namebuffer : List U8) : MdnsVisit → List U8
  | name text _ => splice namebuffer 0 text
  | _ => namebuffer

/-! ### The comparisons -/

/-- What the first bytes of the array have to be for the comparisons to come to an end:
the service asked for, or its first part where the rest would not fit the array. -/
def mdnsKey (query : List U8) : List U8 :=
  if mdnsExpected.length + query.length ≤ MDNS_PTR_NAME_SIZE then mdnsExpected ++ query
  else mdnsExpected

/-- How they end then. -/
def mdnsWon (query : List U8) : Except Fault Bool :=
  if mdnsExpected.length + query.length ≤ MDNS_PTR_NAME_SIZE then .ok true
  else .error .outOfBounds

lemma mdnsMemcmp_of_le {s str : List U8} {pos : ℕ} (h : pos + s.length ≤ str.length) :
    mdnsMemcmp s str pos = .ok (decide (s <+: str.drop pos)) := by
  rw [mdnsMemcmp, Memory.slice_of_le _ h]
  simp only [List.prefix_iff_eq_take]
  rfl

lemma mdnsMemcmp_of_lt {s str : List U8} {pos : ℕ} (h : str.length < pos + s.length) :
    mdnsMemcmp s str pos = .error .outOfBounds := by
  rw [mdnsMemcmp, Memory.slice_of_lt _ h]
  rfl

/-- **The comparisons** are won by the key and nothing else. -/
lemma mdnsCompareName_eq (query : List U8) (offset length : ℕ) {x : MdnsExtracted}
    (hx : x.str.length = MDNS_PTR_NAME_SIZE) :
    mdnsCompareName query offset length (some x) =
      if mdnsKey query <+: x.str then (mdnsWon query).map (MdnsRecord.done · offset)
      else .ok (.next (offset + length) x.str) := by
  have hfirst : mdnsMemcmp mdnsExpected x.str 0 = .ok (decide (mdnsExpected <+: x.str)) := by
    rw [mdnsMemcmp_of_le (by rw [hx]; decide), List.drop_zero]
  rw [mdnsCompareName, hfirst, mdnsKey, mdnsWon]
  -- the second comparison is made where the first is won
  by_cases he : mdnsExpected <+: x.str
  · by_cases hfits : mdnsExpected.length + query.length ≤ MDNS_PTR_NAME_SIZE
    · have hsecond : mdnsMemcmp query x.str mdnsExpected.length =
          .ok (decide (query <+: x.str.drop mdnsExpected.length)) :=
        mdnsMemcmp_of_le (by rw [hx]; exact hfits)
      simp only [if_pos hfits, Memory.append_prefix_iff, he, true_and, decide_true]
      show (mdnsMemcmp query x.str mdnsExpected.length >>= _) = _
      rw [hsecond]
      by_cases hq : query <+: x.str.drop mdnsExpected.length
      · simp only [hq, decide_true, if_true]
        rfl
      · simp only [hq, decide_false, if_false]
        rfl
    -- its length reaches past the array
    · simp only [if_neg hfits, he, decide_true, if_true]
      show (mdnsMemcmp query x.str mdnsExpected.length >>= _) = _
      rw [mdnsMemcmp_of_lt (by rw [hx]; exact Nat.not_le.mp hfits)]
      rfl
  · have hkey : ¬ (if mdnsExpected.length + query.length ≤ MDNS_PTR_NAME_SIZE
        then mdnsExpected ++ query else mdnsExpected) <+: x.str := by
      split_ifs
      · exact fun h => he (Memory.append_prefix_iff.mp h).1
      · exact he
    simp only [he, hkey, decide_false, if_false]
    rfl

/-! ### The walk -/

/-- What skipping at an offset leaves there. -/
lemma reads_mdnsOffsetAfter (d : List U8) (offset : ℕ) : ∃ s : MdnsSkipped,
    Reads d (fun m => mdnsStringSkip m d.length offset) s ∧ s.offset = mdnsOffsetAfter d offset ∧
      (mdnsOffsetAfter d offset = offset ∨ mdnsOffsetAfter d offset ≤ d.length) := by
  obtain ⟨s, ls, r, h⟩ := walksAlike d (MDNS_MAX_SUBSTRINGS + 1) offset none
  have hafter : mdnsOffsetAfter d offset = (MdnsSkipped.ofLoop offset s).offset := by
    rw [mdnsOffsetAfter, h.reads_skip.eq]
  refine ⟨_, h.reads_skip, hafter.symm, ?_⟩
  rw [hafter]
  cases s with
  | none => exact Or.inl rfl
  | some e => exact Or.inr (h.inside e.1 e.2 rfl)

/-- Extracting at an offset writes the text found there, over whatever was in the
array. -/
lemma reads_mdnsTextAt (d : List U8) (offset : ℕ) {out : List U8}
    (hout : out.length = MDNS_PTR_NAME_SIZE) : ∃ x : MdnsExtracted,
      Reads d (fun m => mdnsStringExtract m d.length offset out MDNS_PTR_NAME_SIZE) x ∧
        x.str = splice out 0 (mdnsTextAt d offset).1 ∧
        (mdnsTextAt d offset).1.length ≤ MDNS_PTR_NAME_SIZE := by
  obtain ⟨s, ls, r, h⟩ := walksAlike d (MDNS_MAX_SUBSTRINGS + 1) offset none
  have htext : (mdnsTextAt d offset).1 = (Labels.dotted DOT ls).take MDNS_PTR_NAME_SIZE := by
    have hfits : MdnsOutput.Fits
        ⟨List.replicate MDNS_PTR_NAME_SIZE 0, 0, MDNS_PTR_NAME_SIZE⟩ := by
      simp [MdnsOutput.Fits]
    rw [mdnsTextAt, (h.extracts _ hfits).eq]
    simp only [MdnsOutput.write, Memory.take_splice_end _ (Nat.zero_le _), List.take_zero,
      List.nil_append]
  have hx := h.reads_extract out []
  simp only [List.append_nil, hout] at hx
  exact ⟨_, hx, by rw [htext, ← hout]; rfl, htext ▸ List.length_take_le _ _⟩

/-- What the body of the loop makes of what it finds. -/
def recordOver (query : List U8) (offset : ℕ) (namebuffer : List U8) :
    Option (MdnsVisit × ℕ) → Except Fault MdnsRecord
  | none => .ok (.done false offset)
  | some (.wild, _) => .error .outOfBounds
  | some (.short, _) => .error .nullPointer
  | some (.outside, next) => .ok (.next next namebuffer)
  | some (.name text _, next) =>
    if mdnsKey query <+: splice namebuffer 0 text
    then (mdnsWon query).map (MdnsRecord.done · (offset + 10))
    else .ok (.next next (splice namebuffer 0 text))

/-- **One record**, in terms of what the walk finds there. -/
lemma mdnsAnswerRecord_eq {d beyond : List U8}
    (hmem : d.length + beyond.length ≤ MDNS_RESPONSE_BUFFER_SIZE) (query : List U8) (offset : ℕ)
    {namebuffer : List U8} (hname : namebuffer.length = MDNS_PTR_NAME_SIZE) :
    mdnsAnswerRecord (d ++ beyond) d.length query offset namebuffer =
      recordOver query (mdnsOffsetAfter d offset) namebuffer (mdnsVisitAt d offset) := by
  obtain ⟨s, hskip, hs, -⟩ := reads_mdnsOffsetAfter d offset
  have hskip' : mdnsStringSkip (d ++ beyond) d.length offset = .ok s := hskip beyond
  rw [mdnsAnswerRecord, hskip', mdnsVisitAt]
  show (if d.length < (s.offset + 10) % 2 ^ 32 then _ else _) = _
  rw [hs]
  set header := mdnsOffsetAfter d offset
  by_cases hgone : d.length < (header + 10) % 2 ^ 32
  · simp only [if_pos hgone]
    rfl
  · simp only [if_neg hgone]
    by_cases hwild : d.length < header + 10
    · -- the sum has wrapped, and the length is read behind everything
      have hfar : (d ++ beyond).length ≤ header + 8 := by
        rw [MDNS_RESPONSE_BUFFER_SIZE] at hmem
        rw [List.length_append]
        omega
      have hload : mdnsNtohs (d ++ beyond) (header + 8) = .error .outOfBounds := by
        rw [mdnsNtohs, loadByte, Memory.load_of_le _ hfar]
        rfl
      simp only [if_pos hwild]
      rw [hload]
      rfl
    · have hhigh : header + 9 < d.length := by omega
      have hlen : mdnsNtohs (d ++ beyond) (header + 8) =
          .ok (ofLe16 d[header + 8 + 1] d[header + 8]) :=
        reads_mdnsNtohs hhigh beyond
      have hd9 : d.getD (header + 9) 0 = d[header + 8 + 1] := by simp [hhigh]
      have hd8 : d.getD (header + 8) 0 = d[header + 8] := by
        simp [Nat.lt_of_succ_lt hhigh]
      simp only [if_neg hwild, hd9, hd8]
      rw [hlen]
      set length := ofLe16 d[header + 8 + 1] d[header + 8]
      show (if length.toNat ≤ d.length - (header + 10) then _ else _) = _
      by_cases hin : length.toNat ≤ d.length - (header + 10)
      · simp only [if_pos hin]
        by_cases hshort : 2 ≤ length.toNat
        · obtain ⟨x, hread, hx, htext⟩ := reads_mdnsTextAt d (header + 10) hname
          have hxlen : x.str.length = MDNS_PTR_NAME_SIZE := by
            rw [hx, Memory.splice_length (by rw [Nat.zero_add, hname]; exact htext), hname]
          have hparse : mdnsRecordParsePtr (d ++ beyond) d.length (header + 10) length.toNat
              namebuffer MDNS_PTR_NAME_SIZE = .ok (some x) := by
            have hread' : mdnsStringExtract (d ++ beyond) d.length (header + 10) namebuffer
                MDNS_PTR_NAME_SIZE = .ok x := hread beyond
            rw [mdnsRecordParsePtr, if_pos ⟨by omega, hshort⟩, hread']
            rfl
          rw [hparse]
          simp only [if_pos hshort]
          show mdnsCompareName query (header + 10) length.toNat (some x) = _
          rw [mdnsCompareName_eq _ _ _ hxlen, hx]
          rfl
        · have hparse : mdnsRecordParsePtr (d ++ beyond) d.length (header + 10) length.toNat
              namebuffer MDNS_PTR_NAME_SIZE = .ok none := by
            rw [mdnsRecordParsePtr, if_neg fun h => hshort h.2]
            rfl
          rw [hparse]
          simp only [if_neg hshort]
          rfl
      · simp only [if_neg hin]
        rfl

/-- A name found fits the array. -/
lemma text_length_of_visitAt {d : List U8} {offset next : ℕ} {text : List U8} {complete : Bool}
    (h : mdnsVisitAt d offset = some (.name text complete, next)) :
    text.length ≤ MDNS_PTR_NAME_SIZE := by
  obtain ⟨x, -, -, hle⟩ := reads_mdnsTextAt d (mdnsOffsetAfter d offset + 10)
    (List.length_replicate (n := MDNS_PTR_NAME_SIZE) (a := (0 : U8)))
  simp only [mdnsVisitAt] at h
  split_ifs at h <;> cases h
  exact hle

/-- How the walk over some records ends. -/
def answerOver (query : List U8) : List MdnsVisit → List U8 → Except Fault Bool
  | [], _ => .ok false
  | .wild :: _, _ => .error .outOfBounds
  | .short :: _, _ => .error .nullPointer
  | .outside :: vs, namebuffer => answerOver query vs namebuffer
  | .name text _ :: vs, namebuffer =>
    if mdnsKey query <+: splice namebuffer 0 text then mdnsWon query
    else answerOver query vs (splice namebuffer 0 text)

/-- **The walk**, in terms of the records it would come to and the array. -/
theorem mdnsAnswerCheckLoop_eq {d beyond : List U8}
    (hmem : d.length + beyond.length ≤ MDNS_RESPONSE_BUFFER_SIZE) (query : List U8)
    (records offset : ℕ) {namebuffer : List U8} (hname : namebuffer.length = MDNS_PTR_NAME_SIZE) :
    (mdnsAnswerCheckLoop (d ++ beyond) d.length query records offset namebuffer).map Prod.fst =
      answerOver query (mdnsVisits d records offset) namebuffer := by
  induction records generalizing offset namebuffer with
  | zero => rfl
  | succ records ih =>
      have hrecord := mdnsAnswerRecord_eq hmem query offset hname
      rw [mdnsAnswerCheckLoop, hrecord, mdnsVisits]
      cases hv : mdnsVisitAt d offset with
      | none => rfl
      | some vn =>
          obtain ⟨v, next⟩ := vn
          cases v with
          | wild => rfl
          | short => rfl
          | outside => exact ih next hname
          | name text complete =>
              have hlen : (splice namebuffer 0 text).length = MDNS_PTR_NAME_SIZE := by
                rw [Memory.splice_length (by
                  rw [Nat.zero_add, hname]; exact text_length_of_visitAt hv), hname]
              have hgoesOn : ¬ (MdnsVisit.name text complete).Faults := by simp [MdnsVisit.Faults]
              simp only [if_neg hgoesOn, answerOver, recordOver]
              by_cases hkey : mdnsKey query <+: splice namebuffer 0 text
              · simp only [if_pos hkey]
                rw [mdnsWon]
                split_ifs <;> rfl
              · simp only [if_neg hkey]
                exact ih next hlen

/-! ### What the walk reports -/

namespace MdnsVisit

/-- A record that carries the name asked for: its data is a name that starts with it. -/
def Matches (query : List U8) : MdnsVisit → Prop
  | name text complete => complete = true ∧ mdnsExpected ++ query <+: text
  | _ => False

/-- A record whose comparisons are won, over what the array held before it. -/
def Wins (query namebuffer : List U8) : MdnsVisit → Prop
  | name text _ => mdnsExpected ++ query <+: splice namebuffer 0 text
  | _ => False

instance (query namebuffer : List U8) (v : MdnsVisit) : Decidable (v.Wins query namebuffer) :=
  match v with
  | name _ _ => inferInstanceAs (Decidable (_ <+: _))
  | wild => inferInstanceAs (Decidable False)
  | outside => inferInstanceAs (Decidable False)
  | short => inferInstanceAs (Decidable False)

/-- A text is found where it was written. -/
lemma Matches.wins {query : List U8} {v : MdnsVisit} (h : v.Matches query)
    (namebuffer : List U8) : v.Wins query namebuffer := by
  cases v with
  | wild => exact h.elim
  | outside => exact h.elim
  | short => exact h.elim
  | name text complete =>
      refine h.2.trans ?_
      rw [splice, List.take_zero, List.nil_append]
      exact List.prefix_append _ _

end MdnsVisit

/-- The records the walk reaches: it ends with the first whose comparisons are won. -/
def mdnsReached (query : List U8) : List MdnsVisit → List U8 → List MdnsVisit
  | [], _ => []
  | v :: vs, namebuffer =>
    v :: if v.Wins query namebuffer then [] else mdnsReached query vs (v.leaves namebuffer)

/-- The walk ends, and reports whether a record it has reached carries the name. -/
def AnswersRight (query : List U8) (reached : List MdnsVisit) (r : Except Fault Bool) : Prop :=
  ∃ found, r = .ok found ∧ (found = true ↔ ∃ v ∈ reached, v.Matches query)

/-- Up to the first record that carries the name, none is too short or taken for inside
by an overflow, and none that does not carry it has its comparisons won: not by bytes
that earlier records or the stack have left, nor by a text that is no whole name. -/
def NoSlip (query : List U8) (vs : List MdnsVisit) (namebuffer : List U8) : Prop :=
  ∀ pre v post, vs = pre ++ v :: post → (∀ u ∈ pre, ¬ u.Matches query) →
    ¬ v.Faults ∧ (v.Wins query (pre.foldl MdnsVisit.leaves namebuffer) → v.Matches query)

lemma noSlip_cons {query : List U8} {v : MdnsVisit} {vs : List MdnsVisit} {namebuffer : List U8} :
    NoSlip query (v :: vs) namebuffer ↔
      (¬ v.Faults ∧ (v.Wins query namebuffer → v.Matches query)) ∧
        (¬ v.Matches query → NoSlip query vs (v.leaves namebuffer)) := by
  refine ⟨fun h => ⟨h [] v vs rfl (by simp), fun hv pre u post hvs hpre => ?_⟩, ?_⟩
  · refine h (v :: pre) u post (by rw [hvs]; rfl) fun w hw => ?_
    rcases List.mem_cons.mp hw with rfl | hw
    · exact hv
    · exact hpre w hw
  · rintro ⟨hv, hrest⟩ pre u post hvs hpre
    cases pre with
    | nil =>
        obtain ⟨rfl, -⟩ := List.cons.inj hvs
        exact hv
    | cons w pre =>
        obtain ⟨rfl, rfl⟩ := List.cons.inj hvs
        exact hrest (hpre v (by simp)) pre u post rfl fun x hx => hpre x (by simp [hx])

/-- A record whose comparisons are lost changes nothing but the array. -/
lemma noSlip_cons_of_lost {query : List U8} {v : MdnsVisit} {vs : List MdnsVisit}
    {namebuffer : List U8} (hv : ¬ v.Faults) (hlost : ¬ v.Wins query namebuffer) :
    NoSlip query (v :: vs) namebuffer ↔ NoSlip query vs (v.leaves namebuffer) := by
  have hmatch : ¬ v.Matches query := fun h => hlost (h.wins namebuffer)
  rw [noSlip_cons, and_iff_right ⟨hv, fun hw => absurd hw hlost⟩, forall_prop_of_true hmatch]

/-- The walk over some records, for a name asked for that fits the array. -/
lemma answerOver_right_iff {query : List U8}
    (hq : mdnsExpected.length + query.length ≤ MDNS_PTR_NAME_SIZE) (vs : List MdnsVisit)
    (namebuffer : List U8) :
    AnswersRight query (mdnsReached query vs namebuffer) (answerOver query vs namebuffer) ↔
      NoSlip query vs namebuffer := by
  -- on the visits; each goes on with what it leaves in the array
  induction vs generalizing namebuffer with
  | nil =>
      refine iff_of_true ⟨false, rfl, by simp [mdnsReached]⟩ ?_
      intro pre v post hvs
      simp at hvs
  | cons v vs ih =>
      -- a visit that does not match settles nothing
      have hskip : ∀ {r : Except Fault Bool}, ¬ v.Matches query →
          (AnswersRight query (v :: mdnsReached query vs (v.leaves namebuffer)) r ↔
            AnswersRight query (mdnsReached query vs (v.leaves namebuffer)) r) := fun hv => by
        simp only [AnswersRight, List.exists_mem_cons_iff, or_iff_right hv]
      have hfault : ∀ {e : Fault}, v.Faults →
          (AnswersRight query (mdnsReached query (v :: vs) namebuffer) (.error e) ↔
            NoSlip query (v :: vs) namebuffer) := fun hv => by
        refine iff_of_false ?_ fun h => (noSlip_cons.mp h).1.1 hv
        rintro ⟨found, hr, -⟩
        cases hr
      cases v with
      | wild => exact hfault (Or.inl rfl)
      | short => exact hfault (Or.inr rfl)
      | outside =>
          have hlost : ¬ MdnsVisit.outside.Wins query namebuffer := id
          rw [noSlip_cons_of_lost (by simp [MdnsVisit.Faults]) hlost, mdnsReached, if_neg hlost,
            hskip id]
          exact ih namebuffer
      | name text complete =>
          have hgoesOn : ¬ (MdnsVisit.name text complete).Faults := by simp [MdnsVisit.Faults]
          rw [mdnsReached, answerOver, mdnsKey, mdnsWon, if_pos hq, if_pos hq]
          -- the first to win ends the walk, and must be one that matches
          by_cases hwin : (MdnsVisit.name text complete).Wins query namebuffer
          · have hkey : mdnsExpected ++ query <+: splice namebuffer 0 text := hwin
            rw [if_pos hwin, if_pos hkey, noSlip_cons]
            refine ⟨?_, fun h => ⟨true, rfl, iff_of_true rfl ⟨_, by simp, h.1.2 hwin⟩⟩⟩
            rintro ⟨found, hr, hfound⟩
            cases hr
            obtain ⟨u, hu, hmatch⟩ := hfound.mp rfl
            obtain rfl := List.mem_singleton.mp hu
            exact ⟨⟨hgoesOn, fun _ => hmatch⟩, fun hno => absurd hmatch hno⟩
          · have hkey : ¬ mdnsExpected ++ query <+: splice namebuffer 0 text := hwin
            rw [if_neg hwin, if_neg hkey, noSlip_cons_of_lost hgoesOn hwin,
              hskip fun h => hwin (h.wins namebuffer)]
            exact ih _

/-- **mDNS answer matching.** The walk ends, and reports a record exactly when one it
reaches carries the name asked for, exactly when up to the first such record none is too
short and no comparison is won by anything but that name. -/
theorem answer_check_iff {d beyond query : List U8}
    (hmem : d.length + beyond.length ≤ MDNS_RESPONSE_BUFFER_SIZE)
    (hq : mdnsExpected.length + query.length ≤ MDNS_PTR_NAME_SIZE) (offset records : ℕ)
    (namebuffer : Vector U8 MDNS_PTR_NAME_SIZE) :
    AnswersRight query (mdnsReached query (mdnsVisits d records offset) namebuffer.toList)
        ((mdnsAnswerCheck (d ++ beyond) d.length offset records query namebuffer).map Prod.fst) ↔
      NoSlip query (mdnsVisits d records offset) namebuffer.toList := by
  rw [mdnsAnswerCheck, mdnsAnswerCheckLoop_eq hmem query records offset Vector.length_toList]
  exact answerOver_right_iff hq _ _

/-- A packet with one record, of the root name and with some data. -/
def oneRecord (data : List U8) : List U8 :=
  [0, 0, 0x84, 0, 0, 0, 0, 1, 0, 0, 0, 0] ++ [0] ++ [0, 12, 0, 1, 0, 0, 0, 120] ++
    be16 (BitVec.ofNat 16 data.length) ++ data

/-- An answer with the name asked for. -/
def greybusAnswer : List U8 :=
  oneRecord (packedName (mdnsExpected.dropLast :: greybusService.labels))

/-- On it the walk is as it should be. -/
theorem answer_check_greybus :
    AnswersRight greybusService.text
        (mdnsReached greybusService.text (mdnsVisits greybusAnswer 1 12)
          (Vector.replicate MDNS_PTR_NAME_SIZE 0).toList)
        ((mdnsAnswerCheck (greybusAnswer ++ []) greybusAnswer.length 12 1 greybusService.text
          (Vector.replicate MDNS_PTR_NAME_SIZE 0)).map Prod.fst) ↔
      NoSlip greybusService.text (mdnsVisits greybusAnswer 1 12)
        (Vector.replicate MDNS_PTR_NAME_SIZE (0 : U8)).toList :=
  answer_check_iff (by decide) (by decide) 12 1 (Vector.replicate MDNS_PTR_NAME_SIZE 0)

/-- A record of no bytes is compared through a null pointer. -/
theorem answer_check_null :
    ¬ ∀ (d beyond query : List U8), d.length + beyond.length ≤ MDNS_RESPONSE_BUFFER_SIZE →
      mdnsExpected.length + query.length ≤ MDNS_PTR_NAME_SIZE →
      ∀ (offset records : ℕ) (namebuffer : Vector U8 MDNS_PTR_NAME_SIZE),
        AnswersRight query (mdnsReached query (mdnsVisits d records offset) namebuffer.toList)
          ((mdnsAnswerCheck (d ++ beyond) d.length offset records query namebuffer).map
            Prod.fst) := by
  intro h
  have hmem : (oneRecord []).length + ([] : List U8).length ≤ MDNS_RESPONSE_BUFFER_SIZE := by decide
  obtain ⟨found, hr, -⟩ := h (oneRecord []) [] greybusService.text hmem (by decide) 12 1
    (Vector.replicate _ 0)
  have hvisits : mdnsVisits (oneRecord []) 1 12 = [.short] := by decide +kernel
  rw [mdnsAnswerCheck, mdnsAnswerCheckLoop_eq hmem _ _ _ Vector.length_toList, hvisits] at hr
  cases hr

end Cc1352Greybus
