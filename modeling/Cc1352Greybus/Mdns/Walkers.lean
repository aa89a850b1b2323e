import Cc1352Greybus.Mdns.Names

/-!
The two walks over a name, on any bytes at all.

A walk is given a message and an offset into it, neither of which can be trusted.
Both take the same labels off the message, one after the other, and stop after the
same number of them; where a pointer is met, skipping ends and extracting goes on at
its target but keeps the place behind it.

* `reads_mdnsGetNextSubstring`: one label is read inside the message.
* `reads_mdnsStringExtractLoop`: the labels a walk takes, and the bytes it writes.
* `walkers_safe`: neither walk leaves the message or its output, and they agree.
-/

namespace Cc1352Greybus

open Memory (Reads splice)

/-! ### One label -/

lemma reads_loadByte {d : List U8} {i : ℕ} (h : i < d.length) :
    Reads d (fun m => loadByte m i) d[i] := Reads.load _ h

lemma reads_mdnsNtohs {d : List U8} {i : ℕ} (h : i + 1 < d.length) :
    Reads d (fun m => mdnsNtohs m i) (ofLe16 d[i + 1] d[i]) :=
  (reads_loadByte (Nat.lt_of_succ_lt h)).bind ((reads_loadByte h).bind (Reads.pure d _))

/-- A pointer is read inside the message, or not at all. -/
lemma reads_mdnsHop {d : List U8} {offset : ℕ} (h : offset < d.length) : ∃ hop : MdnsHop,
    Reads d (fun m => mdnsHop m d.length offset) hop ∧
      ∀ t, hop = .target t → t < d.length ∧ offset + 2 ≤ d.length := by
  by_cases hc : mdnsIsStringRef d[offset] = true
  · by_cases hcut : d.length < offset + 2
    · refine ⟨.giveUp, ?_, by simp⟩
      exact (reads_loadByte h).bind (Reads.ite
        (fun _ => Reads.ite (fun _ => Reads.pure d _) fun hn => absurd hcut hn)
        fun hn => absurd hc hn)
    · have h' : offset + 1 < d.length := by omega
      -- what is read there, whichever way its target is found to lie
      have hread : ∀ hop, Reads d (fun _ =>
            if d.length ≤ (ofLe16 d[offset + 1] d[offset] &&& 0x3fff).toNat then
              (pure .giveUp : Except Fault MdnsHop)
            else pure (.target (ofLe16 d[offset + 1] d[offset] &&& 0x3fff).toNat)) hop →
          Reads d (fun m => mdnsHop m d.length offset) hop := fun hop hr =>
        (reads_loadByte h).bind (Reads.ite
          (fun _ => Reads.ite (fun hlt => absurd hlt hcut) fun _ => (reads_mdnsNtohs h').bind hr)
          fun hn => absurd hc hn)
      by_cases hout : d.length ≤ (ofLe16 d[offset + 1] d[offset] &&& 0x3fff).toNat
      · exact ⟨.giveUp, hread _ (Reads.ite (fun _ => Reads.pure d _) fun hn => absurd hout hn),
          by simp⟩
      · refine ⟨.target _, hread _ (Reads.ite (fun hle => absurd hle hout)
          fun _ => Reads.pure d _), ?_⟩
        rintro t ⟨⟩
        exact ⟨Nat.not_le.mp hout, Nat.not_lt.mp hcut⟩
  · refine ⟨.label, ?_, by simp⟩
    exact (reads_loadByte h).bind (Reads.ite (fun hr => absurd hr hc) fun _ => Reads.pure d _)

/-- Where the pointers from an offset may lead. -/
structure RefsIn (d : List U8) (offset : ℕ) (ref : Bool) (r : Option ℕ × Bool) : Prop where
  inside : ∀ pos, r.1 = some pos → pos < d.length
  behind : r.2 = true → ref = true ∨ offset + 2 ≤ d.length
  stays : r.2 = false → ref = false ∧ ∀ pos, r.1 = some pos → pos = offset

lemma refsIn_label {d : List U8} {offset : ℕ} (h : offset < d.length) (ref : Bool) :
    RefsIn d offset ref (some offset, ref) := ⟨by simp [h], Or.inl, fun hr => ⟨hr, by simp⟩⟩

lemma refsIn_giveUp (d : List U8) (offset : ℕ) (ref : Bool) : RefsIn d offset ref (none, ref) :=
  ⟨by simp, Or.inl, fun hr => ⟨hr, by simp⟩⟩

/-- **Pointers** are followed inside the message, however they lie. -/
lemma reads_mdnsFollowRefs (d : List U8) (hops : ℕ) {offset : ℕ} (h : offset < d.length)
    (ref : Bool) : ∃ r : Option ℕ × Bool,
      Reads d (fun m => mdnsFollowRefs m d.length hops offset ref) r ∧ RefsIn d offset ref r := by
  induction hops generalizing offset ref with
  | zero =>
      obtain ⟨hop, hread, htarget⟩ := reads_mdnsHop h
      cases hop with
      | label => exact ⟨_, hread.bind (Reads.pure d _), refsIn_label h ref⟩
      | giveUp => exact ⟨_, hread.bind (Reads.pure d _), refsIn_giveUp d offset ref⟩
      | target t =>
          exact ⟨(none, true), hread.bind (Reads.pure d _), by simp,
            fun _ => Or.inr (htarget t rfl).2, by simp⟩
  | succ hops ih =>
      obtain ⟨hop, hread, htarget⟩ := reads_mdnsHop h
      cases hop with
      | label => exact ⟨_, hread.bind (Reads.pure d _), refsIn_label h ref⟩
      | giveUp => exact ⟨_, hread.bind (Reads.pure d _), refsIn_giveUp d offset ref⟩
      | target t =>
          obtain ⟨ht, hbehind⟩ := htarget t rfl
          obtain ⟨r, hr, hin⟩ := ih ht true
          exact ⟨r, hread.bind hr, hin.inside, fun _ => Or.inr hbehind,
            fun hf => absurd (hin.stays hf).1 (by decide)⟩

/-- Where a label read at an offset may lie. -/
structure SubstringIn (d : List U8) (cur : ℕ) (p : MdnsStringPair) : Prop where
  inside : ∀ pos, p.offset = some pos → pos + p.length ≤ d.length
  behind_ref : p.ref = true → cur + 2 ≤ d.length
  behind_end : ∀ pos, p.offset = some pos → p.ref = false → p.length = 0 → pos + 1 ≤ d.length

/-- **One label** is read inside the message and lies in it. -/
lemma reads_mdnsGetNextSubstring (d : List U8) (cur : ℕ) : ∃ p : MdnsStringPair,
    Reads d (fun m => mdnsGetNextSubstring m d.length cur) p ∧ SubstringIn d cur p := by
  by_cases h : cur < d.length
  · -- the checks in front of the loop
    have hstart : ∀ {p : MdnsStringPair} {f : List U8 → Except Fault MdnsStringPair},
        Reads d (fun m => if d[cur] = 0 then pure ⟨some cur, 0, false⟩ else f m) p →
        Reads d (fun m => if d.length ≤ cur then pure ⟨none, 0, false⟩ else do
          let c ← loadByte m cur
          if c = 0 then pure ⟨some cur, 0, false⟩ else f m) p := fun hp =>
      Reads.ite (fun hle => absurd h (Nat.not_lt.mpr hle)) fun _ => (reads_loadByte h).bind hp
    by_cases hz : d[cur] = 0
    · exact ⟨⟨some cur, 0, false⟩, hstart (Reads.ite (fun _ => Reads.pure d _) (absurd hz)),
        ⟨by simpa using h.le, by simp, by simpa using h⟩⟩
    · obtain ⟨⟨stop, ref⟩, hr, hin⟩ := reads_mdnsFollowRefs d 16 h false
      have hbehind : ref = true → cur + 2 ≤ d.length := fun href =>
        (hin.behind href).resolve_left (by decide)
      cases stop with
      | none =>
          exact ⟨⟨none, 0, ref⟩, hstart (Reads.ite (absurd · hz) fun _ => hr.bind (Reads.pure d _)),
            ⟨by simp, hbehind, by simp⟩⟩
      | some offset =>
          have ho : offset < d.length := hin.inside offset rfl
          by_cases hcut : d.length < offset + 1 + d[offset].toNat
          · exact ⟨⟨none, 0, ref⟩, hstart (Reads.ite (absurd · hz) fun _ => hr.bind
              ((reads_loadByte ho).bind (Reads.ite (fun _ => Reads.pure d _) (absurd hcut)))),
              ⟨by simp, hbehind, by simp⟩⟩
          · refine ⟨⟨some (offset + 1), d[offset].toNat, ref⟩, hstart (Reads.ite (absurd · hz)
              fun _ => hr.bind ((reads_loadByte ho).bind (Reads.ite (absurd · hcut)
                fun _ => Reads.pure d _))), ⟨by simpa using hcut, hbehind, ?_⟩⟩
            -- without a pointer the length byte is the one that is not zero
            rintro pos - href hlen
            obtain rfl : offset = cur := (hin.stays href).2 offset rfl
            exact absurd (BitVec.eq_of_toNat_eq hlen) hz
  · exact ⟨⟨none, 0, false⟩, Reads.ite (fun _ => Reads.pure d _)
      (fun hlt => absurd (Nat.not_le.mp hlt) h), ⟨by simp, by simp, by simp⟩⟩

/-! ### The output -/

namespace MdnsOutput

/-- The capacity that remains lies in the memory. -/
def Fits (out : MdnsOutput) : Prop := out.dst + out.remain ≤ out.str.length

/-- As much of some bytes as fits, written to the output. -/
def write (out : MdnsOutput) (bs : List U8) : MdnsOutput where
  str := splice out.str out.dst (bs.take out.remain)
  dst := out.dst + (bs.take out.remain).length
  remain := out.remain - (bs.take out.remain).length

@[simp] lemma write_nil (out : MdnsOutput) : out.write [] = out := by
  simp [write]

/-- What is written lies in the capacity. -/
lemma Fits.take {out : MdnsOutput} (h : out.Fits) (bs : List U8) :
    out.dst + (bs.take out.remain).length ≤ out.str.length := by
  have hle := List.length_take_le out.remain bs
  rw [Fits] at h
  omega

lemma Fits.write {out : MdnsOutput} (h : out.Fits) (bs : List U8) : (out.write bs).Fits := by
  have hle := List.length_take_le out.remain bs
  have hstr := Memory.splice_length (h.take bs)
  rw [Fits] at h ⊢
  simp only [MdnsOutput.write, hstr]
  omega

/-- Bytes written one after the other. -/
lemma Fits.write_write {out : MdnsOutput} (h : out.Fits) (as bs : List U8) :
    (out.write as).write bs = out.write (as ++ bs) := by
  have hdst : out.dst ≤ out.str.length := le_trans (Nat.le_add_right _ _) h
  have htake : (as ++ bs).take out.remain =
      as.take out.remain ++ bs.take (out.remain - (as.take out.remain).length) := by
    rw [List.take_append, List.length_take]
    congr 2
    omega
  simp only [MdnsOutput.write, htake, Memory.splice_splice _ _ hdst, List.length_append,
    Nat.add_assoc, Nat.sub_sub]

/-- One more byte is written if there is room for it. -/
lemma Fits.store {out : MdnsOutput} (h : out.Fits) (c : U8) :
    (if out.remain = 0 then pure out
      else do
        let str ← Memory.store Fault.outOfBounds out.str out.dst [c]
        pure ⟨str, out.dst + 1, out.remain - 1⟩) = Except.ok (out.write [c]) := by
  rw [Fits] at h
  by_cases hr : out.remain = 0
  · rw [if_pos hr, MdnsOutput.write, hr]
    simp only [List.take_zero, Memory.splice_nil, List.length_nil, Nat.add_zero, Nat.sub_zero]
    rw [← hr]
    rfl
  · have htake : [c].take out.remain = [c] := List.take_of_length_le (by simp; omega)
    rw [if_neg hr, Memory.store_of_le _ (by simp; omega), MdnsOutput.write, htake]
    rfl

end MdnsOutput

/-- **A label** is copied to the output with a dot behind it, as far as there is room. -/
lemma reads_mdnsCopyLabel {d : List U8} {pos length : ℕ} (hpos : pos + length ≤ d.length)
    {out : MdnsOutput} (h : out.Fits) :
    Reads d (fun m => mdnsCopyLabel m pos length out)
      (out.write ((d.drop pos).take length ++ [DOT])) := by
  set l := (d.drop pos).take length with hl
  have hlen : l.length = length := by
    rw [hl, List.length_take, List.length_drop]
    omega
  have htoCopy : (if length < out.remain then length else out.remain) =
      (l.take out.remain).length := by
    rw [List.length_take, hlen]
    split_ifs <;> omega
  have hbytes : (d.drop pos).take (l.take out.remain).length = l.take out.remain := by
    rw [hl, List.take_take, List.length_take, List.length_drop]
    congr 1
    omega
  have hslice : Reads d (fun m => Memory.slice Fault.outOfBounds m pos (l.take out.remain).length)
      (l.take out.remain) := by
    have := Reads.slice Fault.outOfBounds (d := d) (i := pos) (n := (l.take out.remain).length) (by
      rw [List.length_take]
      omega)
    rwa [hbytes] at this
  unfold mdnsCopyLabel
  simp only [htoCopy]
  refine hslice.bind (Reads.const ?_)
  rw [Memory.store_of_le _ (h.take l), ← h.write_write]
  exact (h.write l).store DOT

/-! ### The two walks -/

/-- What the two walks make of one name, from an offset on with `left` more labels
allowed: skipping ends in `s`, extracting writes the labels `ls` and ends in `r`. -/
structure WalksAlike (d : List U8) (left cur : ℕ) (fin : Option ℕ) (s : Option (ℕ × Bool))
    (ls : List (List U8)) (r : Option ℕ) : Prop where
  skips : Reads d (fun m => mdnsStringSkipLoop m d.length left cur) s
  extracts : ∀ out : MdnsOutput, out.Fits →
    Reads d (fun m => mdnsStringExtractLoop m d.length left cur fin out)
      (r, out.write (Labels.dotted DOT ls))
  /-- The place behind the first pointer is where the name ends. -/
  keeps : ∀ e, fin = some e → ∀ e', r = some e' → e' = e
  /-- What extracting reaches, skipping reaches. -/
  skipped : fin = none → ∀ e, r = some e → ∃ atRef, s = some (e, atRef)
  /-- What skipping reaches without a pointer, extracting reaches. -/
  extracted : fin = none → ∀ e, s = some (e, false) → r = some e
  inside : ∀ e atRef, s = some (e, atRef) → e ≤ d.length

/-- A name that neither walk gets to the end of. -/
lemma walksAlike_failed {d : List U8} {left cur : ℕ} {fin : Option ℕ}
    (hs : Reads d (fun m => mdnsStringSkipLoop m d.length left cur) none)
    (hx : ∀ out : MdnsOutput, Reads d (fun m => mdnsStringExtractLoop m d.length left cur fin out)
      (none, out)) : WalksAlike d left cur fin none [] none :=
  ⟨hs, fun out _ => by simpa using hx out, by simp, by simp, by simp, by simp⟩

/-- The last label of a name: the end mark, or what a pointer leads to. -/
lemma walksAlike_end {d : List U8} {left cur pos : ℕ} {ref : Bool} {fin : Option ℕ}
    (hp : Reads d (fun m => mdnsGetNextSubstring m d.length cur) ⟨some pos, 0, ref⟩)
    (hin : SubstringIn d cur ⟨some pos, 0, ref⟩) :
    WalksAlike d (left + 1) cur fin (some (if ref then (cur + 2, true) else (pos + 1, false))) []
      (some ((if ref = true ∧ fin = none then some (cur + 2) else fin).getD (pos + 1))) := by
  refine
    { skips := hp.bind ?_
      extracts := fun out _ => hp.bind ?_
      keeps := ?_
      skipped := ?_
      extracted := ?_
      inside := ?_ }
  -- the label is empty, so that neither walk goes on
  · cases ref with
    | false => exact Reads.pure d _
    | true => exact Reads.pure d _
  · rw [Labels.dotted_nil, MdnsOutput.write_nil]
    exact Reads.pure d _
  · rintro e rfl e' he
    simpa using he.symm
  · rintro rfl e he
    cases ref with
    | false => exact ⟨false, by simpa using he⟩
    | true => exact ⟨true, by simpa using he⟩
  · rintro rfl e he
    cases ref with
    | false => simpa using he
    | true => simp at he
  · intro e atRef he
    cases ref with
    | false =>
        simp only [Bool.false_eq_true, if_false, Option.some.injEq, Prod.mk.injEq] at he
        exact he.1 ▸ hin.behind_end pos rfl rfl rfl
    | true =>
        simp only [if_true, Option.some.injEq, Prod.mk.injEq] at he
        exact he.1 ▸ hin.behind_ref rfl

/-- A label, and what the walks make of the rest of the name. -/
lemma walksAlike_label {d : List U8} {left cur pos length : ℕ} {ref : Bool} {fin r : Option ℕ}
    {s : Option (ℕ × Bool)} {ls : List (List U8)}
    (hp : Reads d (fun m => mdnsGetNextSubstring m d.length cur) ⟨some pos, length, ref⟩)
    (hin : SubstringIn d cur ⟨some pos, length, ref⟩) (hlen : length ≠ 0)
    (ih : WalksAlike d left (pos + length)
      (if ref = true ∧ fin = none then some (cur + 2) else fin) s ls r) :
    WalksAlike d (left + 1) cur fin (if ref then some (cur + 2, true) else s)
      ((d.drop pos).take length :: ls) r := by
  refine
    { skips := hp.bind ?_
      extracts := fun out hout => hp.bind (Reads.ite (absurd · hlen) fun _ => ?_)
      keeps := ?_
      skipped := ?_
      extracted := ?_
      inside := ?_ }
  -- the label is skipped, or the pointer in front of it ends the walk
  · cases ref with
    | false =>
        exact Reads.ite (absurd · Bool.false_ne_true) fun _ =>
          Reads.ite (absurd · hlen) fun _ => ih.skips
    | true => exact Reads.pure d _
  · rw [Labels.dotted_cons, ← List.singleton_append, ← List.append_assoc, ← hout.write_write]
    exact (reads_mdnsCopyLabel (hin.inside pos rfl) hout).bind (ih.extracts _ (hout.write _))
  -- where the name ends: fixed by the first pointer, if there is one
  · rintro e rfl e' he
    exact ih.keeps e (by simp) e' he
  · rintro rfl e he
    cases ref with
    | false => exact ih.skipped (by simp) e he
    | true => exact ⟨true, by rw [ih.keeps (cur + 2) (by simp) e he]; rfl⟩
  · rintro rfl e he
    cases ref with
    | false => exact ih.extracted (by simp) e he
    | true => simp at he
  · intro e atRef he
    cases ref with
    | false => exact ih.inside e atRef he
    | true =>
        simp only [if_true, Option.some.injEq, Prod.mk.injEq] at he
        exact he.1 ▸ hin.behind_ref rfl

/-- **Both walks** stay inside the message and take the same labels off it. -/
theorem walksAlike (d : List U8) (left cur : ℕ) (fin : Option ℕ) :
    ∃ s ls r, WalksAlike d left cur fin s ls r := by
  induction left generalizing cur fin with
  | zero =>
      obtain ⟨p, hp, -⟩ := reads_mdnsGetNextSubstring d cur
      exact ⟨none, [], none, walksAlike_failed (hp.bind (Reads.pure d _))
        fun out => hp.bind (Reads.pure d _)⟩
  | succ left ih =>
      obtain ⟨⟨stop, length, ref⟩, hp, hin⟩ := reads_mdnsGetNextSubstring d cur
      cases stop with
      | none =>
          exact ⟨none, [], none, walksAlike_failed (hp.bind (Reads.pure d _))
            fun out => hp.bind (Reads.pure d _)⟩
      | some pos =>
          by_cases hlen : length = 0
          · subst hlen
            exact ⟨_, _, _, walksAlike_end hp hin⟩
          · obtain ⟨s, ls, r, h⟩ := ih (pos + length)
              (if ref = true ∧ fin = none then some (cur + 2) else fin)
            exact ⟨_, _, _, walksAlike_label hp hin hlen h⟩

/-! ### Any message -/

/-- What skipping and extracting leave, on a message `data` with anything behind it and
an output with anything behind that. -/
structure WalksSafely (data out : List U8) (offset : ℕ) (s : MdnsSkipped) (x : MdnsExtracted) :
    Prop where
  /-- Both end, and read nothing behind the message; -/
  skips : Reads data (fun m => mdnsStringSkip m data.length offset) s
  /-- what lies behind the output is left alone. -/
  extracts : ∀ behind,
    Reads data (fun m => mdnsStringExtract m data.length offset (out ++ behind) out.length)
      { x with str := x.str ++ behind }
  str_length : x.str.length = out.length
  length_le : x.length ≤ out.length
  /-- What is extracted to its end is skipped to the same place. -/
  skipped : x.atEnd = true → s.ret = true ∧ s.offset = x.offset
  /-- What is skipped without a pointer is extracted to its end. -/
  extracted : s.ret = true → s.atRef = false → x.atEnd = true
  /-- A failed walk leaves the offset alone. -/
  not_skipped : s.ret = false → s.offset = offset
  not_extracted : x.atEnd = false → x.offset = offset ∧ x.length = 0

/-- The result of skipping, from that of its loop. -/
def MdnsSkipped.ofLoop (offset : ℕ) : Option (ℕ × Bool) → MdnsSkipped
  | none => ⟨false, offset, false⟩
  | some (cur, atRef) => ⟨true, cur, atRef⟩

/-- The result of extracting a text, from that of its loop. -/
def MdnsExtracted.ofLoop (offset : ℕ) (out text : List U8) (r : Option ℕ) : MdnsExtracted where
  str := splice out 0 (text.take out.length)
  length := if r.isSome then (text.take out.length).length else 0
  offset := r.getD offset
  atEnd := r.isSome

lemma WalksAlike.reads_skip {d : List U8} {cur : ℕ} {fin r : Option ℕ} {s : Option (ℕ × Bool)}
    {ls : List (List U8)} (h : WalksAlike d (MDNS_MAX_SUBSTRINGS + 1) cur fin s ls r) :
    Reads d (fun m => mdnsStringSkip m d.length cur) (.ofLoop cur s) := by
  refine h.skips.bind ?_
  cases s with
  | none => exact Reads.pure d _
  | some e => exact Reads.pure d _

/-- The text is written from the start of the output on, as far as it fits. -/
lemma WalksAlike.reads_extract {d : List U8} {cur : ℕ} {r : Option ℕ} {s : Option (ℕ × Bool)}
    {ls : List (List U8)} (h : WalksAlike d (MDNS_MAX_SUBSTRINGS + 1) cur none s ls r)
    (out behind : List U8) :
    Reads d (fun m => mdnsStringExtract m d.length cur (out ++ behind) out.length)
      { MdnsExtracted.ofLoop cur out (Labels.dotted DOT ls) r with
        str := (MdnsExtracted.ofLoop cur out (Labels.dotted DOT ls) r).str ++ behind } := by
  have hfits : (⟨out ++ behind, 0, out.length⟩ : MdnsOutput).Fits := by simp [MdnsOutput.Fits]
  have htake := List.length_take_le out.length (Labels.dotted DOT ls)
  have hstr : splice (out ++ behind) 0 ((Labels.dotted DOT ls).take out.length) =
      splice out 0 ((Labels.dotted DOT ls).take out.length) ++ behind :=
    Memory.splice_append (by simp) behind
  refine (h.extracts _ hfits).bind ?_
  cases r with
  | none =>
      refine Reads.const ?_
      simp only [MdnsOutput.write, hstr]
      rfl
  | some fin =>
      refine Reads.const ?_
      simp only [MdnsOutput.write, hstr, Nat.sub_sub_self htake]
      rfl

/-- **The walks are safe on any packet** and agree with each other, wherever they are
started and whatever the capacity. -/
theorem walkers_safe (data out : List U8) (offset : ℕ) : ∃ s x, WalksSafely data out offset s x := by
  obtain ⟨s, ls, r, h⟩ := walksAlike data (MDNS_MAX_SUBSTRINGS + 1) offset none
  have htake := List.length_take_le out.length (Labels.dotted DOT ls)
  refine ⟨.ofLoop offset s, .ofLoop offset out (Labels.dotted DOT ls) r,
    { skips := h.reads_skip
      extracts := h.reads_extract out
      str_length := Memory.splice_length (by simp)
      length_le := ?_
      skipped := ?_
      extracted := ?_
      not_skipped := ?_
      not_extracted := ?_ }⟩
  -- what is written, the two ends when the name ends, and when it does not
  · rw [MdnsExtracted.ofLoop]
    split_ifs
    · exact htake
    · exact Nat.zero_le _
  · intro hend
    obtain ⟨e, rfl⟩ := Option.isSome_iff_exists.mp hend
    obtain ⟨atRef, rfl⟩ := h.skipped rfl e rfl
    exact ⟨rfl, rfl⟩
  · intro hret href
    cases s with
    | none => cases hret
    | some e =>
        obtain ⟨e, atRef⟩ := e
        obtain rfl : atRef = false := href
        rw [h.extracted rfl e rfl]
        rfl
  · intro hret
    cases s with
    | none => rfl
    | some e => cases hret
  · intro hend
    cases r with
    | none => exact ⟨rfl, rfl⟩
    | some e => cases hend

end Cc1352Greybus
