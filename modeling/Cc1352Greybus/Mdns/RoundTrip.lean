import Cc1352Greybus.Mdns.Walkers

/-!
From a name to its packed form and back.

The encoder looks for the next dot and checks the room label by label, the decoder
goes by the length bytes. What they agree on is the packed form of the labels.

* `mdnsStringMakeLoop_spec`: the encoder writes the packed form of the labels it
  finds if that fits, whatever the name.
* `walksAlike_packed`: both walks over a packed name end behind it.
* `name_round_trip`: the two together, for every name of the DNS.
-/

namespace Cc1352Greybus

open Memory (Reads splice)

/-- The packed form of a name's labels. -/
def packedName (ls : List (List U8)) : List U8 := Labels.packed (BitVec.ofNat 8) 0 ls

@[simp] lemma packedName_nil : packedName [] = [0] := rfl

@[simp] lemma packedName_cons (l : List U8) (ls : List (List U8)) :
    packedName (l :: ls) = BitVec.ofNat 8 l.length :: l ++ packedName ls :=
  Labels.packed_cons _ _ l ls

lemma packedName_length_pos (ls : List (List U8)) : 0 < (packedName ls).length :=
  Labels.packed_length_pos _ _ ls

/-! ### The encoder -/

/-- Where the next dot of a name is. -/
lemma mdnsStringFind_cases (name : List U8) {length lastPos : ℕ} (h : lastPos < length) :
    (mdnsStringFind name length DOT lastPos = none ∧ DOT ∉ (name.take length).drop lastPos) ∨
      ∃ l rest, (name.take length).drop lastPos = l ++ DOT :: rest ∧ DOT ∉ l ∧
        mdnsStringFind name length DOT lastPos = some (lastPos + l.length) := by
  rw [mdnsStringFind, if_neg (Nat.not_le.mpr h)]
  set rest := (name.take length).drop lastPos
  cases hf : rest.findIdx? (· = DOT) with
  | none =>
      refine Or.inl ⟨rfl, fun hmem => ?_⟩
      have := List.findIdx?_eq_none_iff.mp hf DOT hmem
      simp at this
  | some i =>
      obtain ⟨hi, hdot, hbefore⟩ := List.findIdx?_eq_some_iff_getElem.mp hf
      have hri : rest[i] = DOT := by simpa using hdot
      refine Or.inr ⟨rest.take i, rest.drop (i + 1), ?_, ?_, ?_⟩
      · rw [← hri, ← List.drop_eq_getElem_cons hi, List.take_append_drop]
      · intro hmem
        obtain ⟨j, hj, hjd⟩ := List.mem_iff_getElem.mp hmem
        rw [List.length_take] at hj
        have := hbefore j (by omega)
        rw [List.getElem_take] at hjd
        simp [hjd] at this
      · rw [Option.map_some, List.length_take, Nat.min_eq_left hi.le]

/-- The labels a name has from a position on. -/
def labelsFrom (name : List U8) (length lastPos : ℕ) : List (List U8) :=
  Labels.labels DOT ((name.take length).drop lastPos)

/-- What the encoder finds of the next label of a name. -/
structure NextLabel (name : List U8) (length lastPos : ℕ) (l : List U8) : Prop where
  labels : labelsFrom name length lastPos =
    l :: labelsFrom name length (mdnsNextPos name length lastPos)
  subLength : (mdnsStringFind name length DOT lastPos).getD length - lastPos = l.length
  inside : lastPos + l.length ≤ length
  bytes : (name.drop lastPos).take l.length = l

/-- The encoder finds the labels of a name. -/
lemma exists_nextLabel {name : List U8} {length lastPos : ℕ} (hlen : length ≤ name.length)
    (h : lastPos < length) : ∃ l, NextLabel name length lastPos l := by
  have hrest : ((name.take length).drop lastPos).length = length - lastPos := by
    rw [List.length_drop, List.length_take, Nat.min_eq_left hlen]
  obtain ⟨hf, hno⟩ | ⟨l, rest, hl, hno, hf⟩ := mdnsStringFind_cases name h
  -- no dot behind: the rest of the name is its last label
  · refine ⟨(name.take length).drop lastPos, ?_, ?_, ?_, ?_⟩
    · have hne : (name.take length).drop lastPos ≠ [] := by
        intro hnil
        rw [hnil, List.length_nil] at hrest
        omega
      have hnext : (name.take length).drop (mdnsNextPos name length lastPos) = [] := by
        rw [mdnsNextPos, hf, Option.map_none, Option.getD_none]
        exact List.drop_of_length_le (by simp)
      rw [labelsFrom, labelsFrom, hnext, Labels.labels_nil, Labels.labels_of_notMem DOT hno hne]
    · rw [hf, Option.getD_none, hrest]
    · rw [hrest]
      omega
    · rw [hrest, List.take_drop, Nat.add_sub_cancel' h.le]
  -- a dot: the label in front of it
  · have hl' := hrest
    rw [hl, List.length_append, List.length_cons] at hl'
    refine ⟨l, ?_, ?_, by omega, ?_⟩
    · have hnext : (name.take length).drop (mdnsNextPos name length lastPos) = rest := by
        rw [mdnsNextPos, hf, Option.map_some, Option.getD_some, Nat.add_assoc, ← List.drop_drop, hl,
          ← List.drop_drop, List.drop_left' rfl]
        rfl
      rw [labelsFrom, labelsFrom, hnext, hl, Labels.labels_append_sep DOT hno]
    · rw [hf, Option.getD_some]
      omega
    · calc (name.drop lastPos).take l.length
          = ((name.take length).drop lastPos).take l.length := by
            rw [List.drop_take, List.take_take, Nat.min_eq_left (by omega)]
        _ = l := by rw [hl, List.take_left' rfl]

section MakeLoop

variable {capacity length : ℕ} {name : List U8} {buffer : List U8} {data lastPos : ℕ}

/-- A label is refused when it, its length and one more byte do not fit. -/
lemma mdnsStringMakeLoop_refuses {l : List U8} (h : NextLabel name length lastPos l)
    (hlt : lastPos < length) (hroom : capacity - data ≤ l.length + 1) :
    mdnsStringMakeLoop capacity name length buffer data lastPos = .ok (buffer, none) := by
  rw [mdnsStringMakeLoop, dif_pos hlt]
  simp only [h.subLength, if_pos hroom]
  rfl

/-- A label that fits is written with its length in front. -/
lemma mdnsStringMakeLoop_label {l : List U8} (h : NextLabel name length lastPos l)
    (hlen : length ≤ name.length) (hlt : lastPos < length) (hcap : capacity ≤ buffer.length)
    (hroom : l.length + 1 < capacity - data) :
    mdnsStringMakeLoop capacity name length buffer data lastPos =
      mdnsStringMakeLoop capacity name length (splice buffer data (BitVec.ofNat 8 l.length :: l))
        (data + (l.length + 1)) (mdnsNextPos name length lastPos) := by
  have hsize : Memory.store Fault.outOfBounds buffer data [BitVec.ofNat 8 l.length] =
      .ok (splice buffer data [BitVec.ofNat 8 l.length]) :=
    Memory.store_of_le _ (by rw [List.length_singleton]; omega)
  have hbytes : Memory.slice Fault.outOfBounds name lastPos l.length = .ok l := by
    rw [Memory.slice_of_le _ (le_trans h.inside hlen), h.bytes]
  have hlabel : Memory.store Fault.outOfBounds (splice buffer data [BitVec.ofNat 8 l.length])
      (data + 1) l = .ok (splice buffer data (BitVec.ofNat 8 l.length :: l)) := by
    have hlength := Memory.splice_length (m := buffer) (i := data)
      (show data + [BitVec.ofNat 8 l.length].length ≤ buffer.length by
        rw [List.length_singleton]; omega)
    rw [Memory.store_of_le _ (by omega)]
    exact congrArg Except.ok (Memory.splice_splice [BitVec.ofNat 8 l.length] l (by omega))
  rw [mdnsStringMakeLoop, dif_pos hlt]
  simp only [h.subLength, if_neg (Nat.not_le.mpr hroom), hsize, hbytes]
  show (Memory.store Fault.outOfBounds _ (data + 1) l >>= _) = _
  rw [hlabel]
  rfl

/-- The end mark is written behind the last label. -/
lemma mdnsStringMakeLoop_end (hlt : length ≤ lastPos) (hcap : capacity ≤ buffer.length)
    (hroom : data < capacity) :
    mdnsStringMakeLoop capacity name length buffer data lastPos =
      .ok (splice buffer data [0], some (data + 1)) := by
  rw [mdnsStringMakeLoop, dif_neg (Nat.not_lt.mpr hlt)]
  simp only [if_neg (show ¬ capacity - data = 0 by omega),
    Memory.store_of_le Fault.outOfBounds (show data + [(0 : U8)].length ≤ buffer.length by
      rw [List.length_singleton]; omega)]
  rfl

/-- Without room for it, nothing is. -/
lemma mdnsStringMakeLoop_full (hlt : length ≤ lastPos) (hroom : capacity ≤ data) :
    mdnsStringMakeLoop capacity name length buffer data lastPos = .ok (buffer, none) := by
  rw [mdnsStringMakeLoop, dif_neg (Nat.not_lt.mpr hlt)]
  simp only [if_pos (show capacity - data = 0 by omega)]
  rfl

end MakeLoop

/-- What the encoder leaves when what is left of a name is `ls`. -/
structure Makes (capacity : ℕ) (buffer : List U8) (data : ℕ) (ls : List (List U8))
    (r : Except Fault (List U8 × Option ℕ)) : Prop where
  /-- The name does not fit, -/
  refused : capacity - data < (packedName ls).length →
    ∃ buffer', r = .ok (buffer', none) ∧ buffer'.length = buffer.length ∧
      buffer'.take data = buffer.take data
  /-- or it is written where the encoder was started. -/
  made : (packedName ls).length ≤ capacity - data →
    r = .ok (splice buffer data (packedName ls), some (data + (packedName ls).length))

/-- **The encoder**: what is left of a name is written in packed form, exactly when that
fits. -/
theorem mdnsStringMakeLoop_makes {capacity length : ℕ} {name : List U8}
    (hlen : length ≤ name.length) {buffer : List U8} (hcap : capacity ≤ buffer.length)
    {data : ℕ} (hdata : data ≤ capacity) (lastPos : ℕ) :
    Makes capacity buffer data (labelsFrom name length lastPos)
      (mdnsStringMakeLoop capacity name length buffer data lastPos) := by
  induction hn : length - lastPos using Nat.strong_induction_on
    generalizing buffer data lastPos with
  | _ n ih =>
    by_cases hlt : lastPos < length
    · obtain ⟨l, hl⟩ := exists_nextLabel hlen hlt
      have hnext := lt_mdnsNextPos name hlt
      have hpos := packedName_length_pos (labelsFrom name length (mdnsNextPos name length lastPos))
      rw [hl.labels]
      by_cases hroom : capacity - data ≤ l.length + 1
      · rw [mdnsStringMakeLoop_refuses hl hlt hroom]
        refine ⟨fun _ => ⟨buffer, rfl, rfl, rfl⟩, fun hfits => ?_⟩
        -- nothing would be left for the end mark
        rw [packedName_cons, List.length_append, List.length_cons] at hfits
        omega
      · have hlength := Memory.splice_length (m := buffer) (i := data)
          (show data + (BitVec.ofNat 8 l.length :: l).length ≤ buffer.length by
            rw [List.length_cons]; omega)
        have htake := Memory.take_splice (m := buffer) (BitVec.ofNat 8 l.length :: l)
          (le_trans hdata hcap)
        have hrest := ih _ (by omega) (by rw [hlength]; exact hcap)
          (show data + (l.length + 1) ≤ capacity by omega) (mdnsNextPos name length lastPos) rfl
        rw [mdnsStringMakeLoop_label hl hlen hlt hcap (Nat.not_le.mp hroom)]
        refine ⟨fun hshort => ?_, fun hfits => ?_⟩
        · rw [packedName_cons, List.length_append, List.length_cons] at hshort
          obtain ⟨buffer', hr, hsame, hfront⟩ := hrest.refused (by omega)
          refine ⟨buffer', hr, hsame.trans hlength, ?_⟩
          have := congrArg (List.take data) hfront
          rwa [List.take_take, List.take_take, Nat.min_eq_left (by omega), htake] at this
        · rw [packedName_cons, List.length_append, List.length_cons] at hfits
          have hjoin := Memory.splice_splice (BitVec.ofNat 8 l.length :: l)
            (packedName (labelsFrom name length (mdnsNextPos name length lastPos)))
            (le_trans hdata hcap)
          rw [List.length_cons] at hjoin
          rw [hrest.made (by omega), hjoin, packedName_cons, List.length_append, List.length_cons,
            Nat.add_assoc data]
    · have hle : length ≤ lastPos := Nat.not_lt.mp hlt
      have hnil : labelsFrom name length lastPos = [] := by
        rw [labelsFrom, List.drop_of_length_le (by rw [List.length_take]; omega), Labels.labels_nil]
      rw [hnil]
      refine ⟨fun hshort => ?_, fun hfits => ?_⟩
      · rw [packedName_nil, List.length_singleton] at hshort
        exact ⟨buffer, mdnsStringMakeLoop_full hle (by omega), rfl, rfl⟩
      · rw [packedName_nil, List.length_singleton] at hfits
        exact mdnsStringMakeLoop_end hle hcap (by omega)

/-- The labels the encoder finds in a name, which may end in a dot. -/
def nameLabels (name : List U8) : List (List U8) :=
  labelsFrom name (if name.getLast? = some DOT then name.length - 1 else name.length) 0

/-- **Any name** that is not empty is written in packed form, exactly when that fits. -/
theorem mdnsStringMake_makes {capacity : ℕ} {name : List U8} (hne : name ≠ [])
    {buffer : List U8} (hcap : capacity ≤ buffer.length) {data : ℕ} (hdata : data ≤ capacity) :
    Makes capacity buffer data (nameLabels name)
      (mdnsStringMake buffer capacity data name name.length) := by
  have hpos := List.length_pos_iff.mpr hne
  have hlast : loadByte name (name.length - 1) = .ok (name.getLast hne) := by
    rw [loadByte, Memory.load_of_lt _ (by omega), List.getLast_eq_getElem]
  have hmake : mdnsStringMake buffer capacity data name name.length =
      mdnsStringMakeLoop capacity name
        (if name.getLast? = some DOT then name.length - 1 else name.length) buffer data 0 := by
    rw [mdnsStringMake, if_neg (by omega), hlast, List.getLast?_eq_some_getLast hne]
    simp only [Option.some.injEq]
    rfl
  rw [hmake]
  exact mdnsStringMakeLoop_makes (by split_ifs <;> omega) hcap hdata 0

/-! ### The decoder -/

/-- Bytes found at an offset of a message. -/
def FoundAt (bs data : List U8) (cur : ℕ) : Prop := bs <+: data.drop cur

lemma FoundAt.append {as bs data : List U8} {cur : ℕ} (h : FoundAt (as ++ bs) data cur) :
    FoundAt as data cur ∧ FoundAt bs data (cur + as.length) := by
  obtain ⟨rest, hrest⟩ := h
  refine ⟨⟨bs ++ rest, by rw [← List.append_assoc, hrest]⟩, ⟨rest, ?_⟩⟩
  rw [← List.drop_drop, ← hrest, List.append_assoc, List.drop_left' rfl]

lemma FoundAt.length_le {bs data : List U8} {cur : ℕ} (h : FoundAt bs data cur) (hne : bs ≠ []) :
    cur + bs.length ≤ data.length := by
  have hle := List.IsPrefix.length_le h
  have hpos := List.length_pos_iff.mpr hne
  rw [List.length_drop] at hle
  omega

lemma FoundAt.take_eq {bs data : List U8} {cur : ℕ} (h : FoundAt bs data cur) :
    (data.drop cur).take bs.length = bs := (List.prefix_iff_eq_take.mp h).symm

lemma FoundAt.getElem {b : U8} {bs data : List U8} {cur : ℕ} (h : FoundAt (b :: bs) data cur)
    (hlt : cur < data.length) : data[cur] = b := by
  obtain ⟨rest, hrest⟩ := h
  rw [List.drop_eq_getElem_cons hlt] at hrest
  exact (List.cons.inj hrest).1.symm

/-- An end mark is a label of no bytes. -/
lemma reads_substring_end {d : List U8} {cur : ℕ} (h : FoundAt [0] d cur) :
    Reads d (fun m => mdnsGetNextSubstring m d.length cur) ⟨some cur, 0, false⟩ := by
  have hlt : cur < d.length := h.length_le (List.cons_ne_nil _ _)
  refine Reads.ite (fun hle => absurd hlt (Nat.not_lt.mpr hle)) fun _ =>
    (reads_loadByte hlt).bind ?_
  exact Reads.ite (fun _ => Reads.pure d _) (absurd (h.getElem hlt))

/-- A length below 64 is not taken for a pointer, nor for the end mark. -/
lemma length_byte {n : ℕ} (h0 : 0 < n) (h : n ≤ 63) :
    BitVec.ofNat 8 n ≠ 0 ∧ mdnsIsStringRef (BitVec.ofNat 8 n) = false ∧
      (BitVec.ofNat 8 n).toNat = n := by
  interval_cases n <;> decide

/-- A label with its length in front is read as that label. -/
lemma reads_substring_label {d l : List U8} {cur : ℕ}
    (h : FoundAt (BitVec.ofNat 8 l.length :: l) d cur) (hne : l ≠ []) (hle : l.length ≤ 63) :
    Reads d (fun m => mdnsGetNextSubstring m d.length cur) ⟨some (cur + 1), l.length, false⟩ := by
  have hend := h.length_le (List.cons_ne_nil _ _)
  rw [List.length_cons] at hend
  have hlt : cur < d.length := by omega
  obtain ⟨hz, href, hnat⟩ := length_byte (List.length_pos_iff.mpr hne) hle
  rw [← h.getElem hlt] at hz href hnat
  have hhop : Reads d (fun m => mdnsHop m d.length cur) .label :=
    (reads_loadByte hlt).bind (Reads.ite (fun hr => absurd (hr.symm.trans href) (by decide))
      fun _ => Reads.pure d _)
  have hrefs : Reads d (fun m => mdnsFollowRefs m d.length 16 cur false) (some cur, false) :=
    hhop.bind (Reads.pure d _)
  refine Reads.ite (fun hge => absurd hlt (Nat.not_lt.mpr hge)) fun _ =>
    (reads_loadByte hlt).bind (Reads.ite (absurd · hz) fun _ => hrefs.bind
      ((reads_loadByte hlt).bind (Reads.ite (fun hcut => ?_) fun _ => ?_)))
  · omega
  · rw [hnat]
    exact Reads.pure d _

/-- **The walks over a packed name** take its labels and end behind it. -/
theorem walksAlike_packed {d : List U8} {ls : List (List U8)} {cur left : ℕ}
    (h : FoundAt (packedName ls) d cur) (hls : ∀ l ∈ ls, l ≠ [] ∧ l.length ≤ 63)
    (hleft : ls.length < left) :
    WalksAlike d left cur none (some (cur + (packedName ls).length, false)) ls
      (some (cur + (packedName ls).length)) := by
  -- on the labels; no pointer is met, so the end stays open
  induction ls generalizing cur left with
  | nil =>
      obtain ⟨left, rfl⟩ := Nat.exists_eq_succ_of_ne_zero (Nat.ne_of_gt hleft)
      have hlt : cur + 1 ≤ d.length := h.length_le (List.cons_ne_nil _ _)
      exact walksAlike_end (reads_substring_end h)
        ⟨by simpa using Nat.le_of_succ_le hlt, by simp, by simpa using hlt⟩
  | cons l ls ih =>
      obtain ⟨left, rfl⟩ := Nat.exists_eq_succ_of_ne_zero (Nat.ne_of_gt (Nat.zero_lt_of_lt hleft))
      obtain ⟨hne, hle⟩ := hls l (by simp)
      rw [packedName_cons] at h
      obtain ⟨hlabel, hrest⟩ := h.append
      have hend := hlabel.length_le (List.cons_ne_nil _ _)
      rw [List.length_cons] at hend hrest
      have hbytes : (d.drop (cur + 1)).take l.length = l := by
        have hsplit : FoundAt ([BitVec.ofNat 8 l.length] ++ l) d cur := hlabel
        exact hsplit.append.2.take_eq
      have hih := ih hrest (fun k hk => hls k (by simp [hk]))
        (show ls.length < left by rw [List.length_cons] at hleft; omega)
      rw [show cur + (l.length + 1) = cur + 1 + l.length by omega] at hih
      -- the label in front, then the rest
      have hstep : WalksAlike d (left + 1) cur none _ _ _ := walksAlike_label
        (reads_substring_label hlabel hne hle)
        ⟨by simpa using (show cur + 1 + l.length ≤ d.length by omega), by simp, fun pos _ _ h0 =>
          absurd (List.length_eq_zero_iff.mp h0) hne⟩ (mt List.length_eq_zero_iff.mp hne) hih
      rw [hbytes] at hstep
      have hlen : cur + 1 + l.length + (packedName ls).length =
          cur + (packedName (l :: ls)).length := by
        rw [packedName_cons, List.length_append, List.length_cons]
        omega
      rwa [hlen] at hstep

/-! ### There and back -/

/-- A name of the DNS as its labels: one to 64 of them, of one to 63 bytes that are no
dots. -/
structure MdnsName where
  labels : List (List U8)
  labels_ne : labels ≠ []
  labels_le : labels.length ≤ MDNS_MAX_SUBSTRINGS
  label_ne : ∀ l ∈ labels, l ≠ []
  label_le : ∀ l ∈ labels, l.length ≤ 63
  dot_notMem : ∀ l ∈ labels, DOT ∉ l

namespace MdnsName

/-- The name as it is written, without a dot at its end. -/
def text (n : MdnsName) : List U8 := Labels.joined DOT n.labels

/-- The name as its callers may write it. -/
def spelled (n : MdnsName) (trailingDot : Bool) : List U8 :=
  if trailingDot then n.text ++ [DOT] else n.text

/-- The packed form is two bytes longer than the name. -/
lemma packed_length (n : MdnsName) : (packedName n.labels).length = n.text.length + 2 := by
  calc (packedName n.labels).length = (Labels.dotted DOT n.labels).length + 1 :=
        Labels.packed_length _ _ _ _
    _ = n.text.length + 2 := by rw [← Labels.joined_length DOT n.labels_ne, text]

lemma text_ne (n : MdnsName) : n.text ≠ [] := by
  intro h
  have hlen := n.packed_length
  obtain ⟨l, ls, hl⟩ := List.exists_cons_of_ne_nil n.labels_ne
  have hne := List.length_pos_iff.mpr (n.label_ne l (by simp [hl]))
  have hpos := packedName_length_pos ls
  rw [h, hl, packedName_cons, List.length_append, List.length_cons, List.length_nil] at hlen
  omega

/-- It does not end in a dot. -/
lemma getLast?_text (n : MdnsName) : n.text.getLast? ≠ some DOT := by
  intro h
  obtain ⟨l, hl, hdot⟩ := Labels.joined_getLast_mem DOT n.labels_ne n.label_ne h
  exact n.dot_notMem l hl hdot

/-- The encoder finds the labels, however the name is written. -/
lemma nameLabels_spelled (n : MdnsName) (trailingDot : Bool) :
    nameLabels (n.spelled trailingDot) = n.labels := by
  have hread : Labels.labels DOT n.text = n.labels :=
    Labels.labels_joined DOT n.dot_notMem n.label_ne
  rw [nameLabels, labelsFrom, List.drop_zero]
  cases trailingDot with
  | false =>
      have hs : n.spelled false = n.text := rfl
      rw [hs, if_neg n.getLast?_text, List.take_length, hread]
  | true =>
      have hs : n.spelled true = n.text ++ [DOT] := rfl
      rw [hs, if_pos List.getLast?_concat, List.length_append, List.length_singleton,
        Nat.add_sub_cancel, List.take_left' rfl, hread]

lemma spelled_ne (n : MdnsName) (trailingDot : Bool) : n.spelled trailingDot ≠ [] := by
  cases trailingDot with
  | false => exact n.text_ne
  | true => exact List.append_ne_nil_of_right_ne_nil _ (List.cons_ne_nil _ _)

end MdnsName

/-- The name of the service, which `tcp_discovery.c` asks for. -/
def greybusService : MdnsName where
  labels := [[0x5F, 0x67, 0x72, 0x65, 0x79, 0x62, 0x75, 0x73], [0x5F, 0x74, 0x63, 0x70],
    [0x6C, 0x6F, 0x63, 0x61, 0x6C]]
  labels_ne := by decide
  labels_le := by decide
  label_ne := by decide
  label_le := by decide
  dot_notMem := by decide

/-- What becomes of a name encoded behind `front` in a buffer with `room` left for it,
with `behind` in the memory after that. -/
structure NameRoundTrips (n : MdnsName) (name front room behind : List U8) : Prop where
  /-- It is refused when fewer than its length and two bytes remain. -/
  refused : room.length < n.text.length + 2 → ∃ buffer,
    mdnsStringMake (front ++ room ++ behind) (front ++ room).length front.length name name.length =
      .ok (buffer, none)
  /-- Otherwise as many bytes are written behind what was there, -/
  made : n.text.length + 2 ≤ room.length → ∃ bs, bs.length = n.text.length + 2 ∧
    mdnsStringMake (front ++ room ++ behind) (front ++ room).length front.length name name.length =
      .ok (front ++ bs ++ room.drop bs.length ++ behind, some (front.length + bs.length)) ∧
    ∀ data cur, FoundAt bs data cur →
      -- skipped wherever they are found,
      Reads data (fun m => mdnsStringSkip m data.length cur) ⟨true, cur + bs.length, false⟩ ∧
      -- and extracted as the name and a dot, as far as the output goes
      ∀ out after, Reads data
        (fun m => mdnsStringExtract m data.length cur (out ++ after) out.length)
        ⟨splice out 0 ((n.text ++ [DOT]).take out.length) ++ after,
          ((n.text ++ [DOT]).take out.length).length, cur + bs.length, true⟩

/-- **mDNS name round trip**: for every name, with or without a dot at its end, every
buffer and every position in it. -/
theorem name_round_trip (n : MdnsName) (trailingDot : Bool) (front room behind : List U8) :
    NameRoundTrips n (n.spelled trailingDot) front room behind := by
  have hmakes := mdnsStringMake_makes (n.spelled_ne trailingDot)
    (show (front ++ room).length ≤ (front ++ room ++ behind).length by simp)
    (show front.length ≤ (front ++ room).length by simp)
  rw [n.nameLabels_spelled] at hmakes
  have hroom : (front ++ room).length - front.length = room.length := by simp
  have hlen := n.packed_length
  refine ⟨fun hshort => ?_, fun hfits => ⟨packedName n.labels, hlen, ?_, ?_⟩⟩
  · obtain ⟨buffer, hr, -, -⟩ := hmakes.refused (by omega)
    exact ⟨buffer, hr⟩
  · rw [hmakes.made (by omega), Memory.splice_room front behind (by omega)]
  · intro data cur hfound
    have hwalk := walksAlike_packed hfound (fun l hl => ⟨n.label_ne l hl, n.label_le l hl⟩)
      (Nat.lt_succ_of_le n.labels_le)
    refine ⟨hwalk.reads_skip, fun out after => ?_⟩
    have htext : Labels.dotted DOT n.labels = n.text ++ [DOT] :=
      (Labels.joined_concat DOT n.labels_ne).symm
    have hx := hwalk.reads_extract out after
    rwa [htext] at hx

end Cc1352Greybus
