import Cc1352Greybus.Mdns.QueryRecv

/-!
Well-formed replies, whichever way their names are compressed.

A name is its labels with their lengths in front, and an end mark; before any of them a few
pointers may lead elsewhere in the message. A reply is its questions and then its PTR records.

* `LeadsTo`, `NameAt`: pointers, and names, where they lie in a message.
* `NameAt.walksAlike`: both walks take exactly the labels of a name.
* `nameAt_packed`: a packed name is one, and so is what points to it.
* `PtrRecordAt`, `PtrReply`: a record, and a reply of such records.
* `reply_understood`: a reply is an answer if it carries the name asked for, whatever the stack.
-/

namespace Cc1352Greybus

open Memory (Reads splice)

/-! ### Names -/

/-- A compression pointer to an offset. -/
def mdnsPointer (t : ℕ) : List U8 := be16 (0xC000 ||| BitVec.ofNat 16 t)

/-- So many pointers lead from one offset to another. -/
inductive LeadsTo (d : List U8) : ℕ → ℕ → ℕ → Prop
  | here (p : ℕ) : LeadsTo d 0 p p
  | hop {n cur t p : ℕ} (h : FoundAt (mdnsPointer t) d cur) (ht : t < 2 ^ 14)
      (rest : LeadsTo d n t p) : LeadsTo d (n + 1) cur p

/-- Where a name ends that starts with so many pointers. -/
def endBehind (n cur stop : ℕ) : ℕ := if n = 0 then stop else cur + 2

/-- A name lies at an offset: its labels, and the offset behind it. -/
inductive NameAt (d : List U8) : ℕ → List (List U8) → ℕ → Prop
  | root {n cur p : ℕ} (hn : n ≤ 16) (hlead : LeadsTo d n cur p) (h : FoundAt [0] d p) :
      NameAt d cur [] (endBehind n cur (p + 1))
  | label {n cur p stop : ℕ} {l : List U8} {ls : List (List U8)} (hn : n ≤ 16)
      (hlead : LeadsTo d n cur p) (hne : l ≠ []) (hle : l.length ≤ 63)
      (h : FoundAt (BitVec.ofNat 8 l.length :: l) d p) (rest : NameAt d (p + 1 + l.length) ls stop) :
      NameAt d cur (l :: ls) (endBehind n cur stop)

/-- The bytes of a pointer. -/
lemma pointer_bytes {t : ℕ} (ht : t < 2 ^ 14) : ∃ high low : U8, mdnsPointer t = [high, low] ∧
    high ≠ 0 ∧ mdnsIsStringRef high = true ∧ (ofLe16 low high &&& 0x3fff).toNat = t := by
  have hword : (0xC000 ||| BitVec.ofNat 16 t : U16).toNat = 0xC000 + t := by
    have hor : 2 ^ 14 * 3 + t = 2 ^ 14 * 3 ||| t := Nat.two_pow_add_eq_or_of_lt ht 3
    rw [BitVec.toNat_or, BitVec.toNat_ofNat, Nat.mod_eq_of_lt (by omega)]
    exact hor.symm
  have hhigh : ((0xC000 ||| BitVec.ofNat 16 t : U16) >>> 8).setWidth 8 =
      BitVec.ofNat 8 (0xC0 + t / 256) := by
    refine BitVec.eq_of_toNat_eq ?_
    rw [BitVec.toNat_setWidth, BitVec.toNat_ushiftRight, hword, BitVec.toNat_ofNat,
      Nat.shiftRight_eq_div_pow]
    omega
  have hbyte : ∀ q < 64, BitVec.ofNat 8 (0xC0 + q) ≠ 0 ∧
      mdnsIsStringRef (BitVec.ofNat 8 (0xC0 + q)) = true := by decide
  obtain ⟨hne, href⟩ := hbyte (t / 256) (by omega)
  refine ⟨_, _, rfl, hhigh ▸ hne, hhigh ▸ href, ?_⟩
  have hmask : (0x3fff : U16).toNat = 2 ^ 14 - 1 := by decide
  rw [ofLe16_le16, BitVec.toNat_and, hword, hmask, Nat.and_two_pow_sub_one_eq_mod]
  omega

/-- A pointer inside the message is followed. -/
lemma reads_mdnsHop_pointer {d : List U8} {cur t : ℕ} (h : FoundAt (mdnsPointer t) d cur)
    (ht : t < 2 ^ 14) (hin : t < d.length) :
    Reads d (fun m => mdnsHop m d.length cur) (.target t) := by
  obtain ⟨high, low, hbytes, -, href, htarget⟩ := pointer_bytes ht
  rw [hbytes] at h
  have hend : cur + 2 ≤ d.length := h.length_le (List.cons_ne_nil _ _)
  have hhigh : d[cur] = high := h.getElem (by omega)
  have hlow : d[cur + 1] = low :=
    (show FoundAt ([high] ++ [low]) d cur from h).append.2.getElem (by
      rw [List.length_singleton]
      omega)
  have hfield : Reads d (fun m => mdnsNtohs m cur) (ofLe16 low high) := by
    rw [← hlow, ← hhigh]
    exact reads_mdnsNtohs hend
  refine (reads_loadByte (show cur < d.length by omega)).bind (Reads.ite (fun _ => Reads.ite
    (fun hlt => absurd hlt (by omega)) fun _ => hfield.bind (Reads.ite (fun hle => ?_) fun _ => ?_))
    fun hn => absurd (hhigh ▸ href) hn)
  · rw [htarget] at hle
    omega
  · rw [htarget]
    exact Reads.pure d _

/-- Pointers lead on from inside the message. -/
lemma LeadsTo.start_lt {d : List U8} {n cur p : ℕ} (h : LeadsTo d n cur p) (hp : p < d.length) :
    cur < d.length := by
  cases h with
  | here p => exact hp
  | hop h ht rest =>
      have hend := h.length_le (List.cons_ne_nil _ _)
      simp only [mdnsPointer, be16, List.length_cons, List.length_nil] at hend
      omega

/-- **Pointers are followed** to where they lead. -/
lemma LeadsTo.reads {d : List U8} {n cur p hops : ℕ} (h : LeadsTo d n cur p) (hn : n ≤ hops)
    (hp : p < d.length) (hlabel : mdnsIsStringRef d[p] = false) (ref : Bool) :
    Reads d (fun m => mdnsFollowRefs m d.length hops cur ref) (some p, ref || decide (0 < n)) := by
  induction h generalizing hops ref with
  | here p =>
      have hhop : Reads d (fun m => mdnsHop m d.length p) .label :=
        (reads_loadByte hp).bind (Reads.ite (fun hr => absurd (hr.symm.trans hlabel) (by decide))
          fun _ => Reads.pure d _)
      rw [decide_eq_false (lt_irrefl 0), Bool.or_false]
      cases hops with
      | zero => exact hhop.bind (Reads.pure d _)
      | succ hops => exact hhop.bind (Reads.pure d _)
  | @hop n cur t p h ht rest ih =>
      obtain ⟨hops, rfl⟩ := Nat.exists_eq_succ_of_ne_zero (show hops ≠ 0 by omega)
      have hrest := @ih hops (by omega) hp hlabel true
      rw [Bool.true_or] at hrest
      rw [decide_eq_true (Nat.succ_pos n), Bool.or_true]
      exact (reads_mdnsHop_pointer h ht (rest.start_lt hp)).bind hrest

/-- A label, or the end mark, that a pointer leads to. -/
lemma reads_substring_behind {d : List U8} {n cur p : ℕ} (hlead : LeadsTo d (n + 1) cur p)
    (hn : n + 1 ≤ 16) (hp : p < d.length) (hlabel : mdnsIsStringRef d[p] = false)
    (hend : p + 1 + d[p].toNat ≤ d.length) :
    Reads d (fun m => mdnsGetNextSubstring m d.length cur) ⟨some (p + 1), d[p].toNat, true⟩ := by
  have hlt : cur < d.length := hlead.start_lt hp
  have hz : d[cur] ≠ 0 := by
    cases hlead with
    | hop h ht rest =>
        obtain ⟨high, low, hbytes, hne, -, -⟩ := pointer_bytes ht
        rw [hbytes] at h
        rwa [h.getElem hlt]
  have hrefs := hlead.reads hn hp hlabel false
  rw [Bool.false_or, decide_eq_true (Nat.succ_pos n)] at hrefs
  exact Reads.ite (fun hge => absurd hlt (Nat.not_lt.mpr hge)) fun _ =>
    (reads_loadByte hlt).bind (Reads.ite (absurd · hz) fun _ => hrefs.bind
      ((reads_loadByte hp).bind (Reads.ite (fun hcut => absurd hcut (Nat.not_lt.mpr hend))
        fun _ => Reads.pure d _)))

/-- **Both walks take the labels of a name**, and end behind it. -/
lemma NameAt.walksAlike {d : List U8} {cur stop : ℕ} {ls : List (List U8)}
    (h : NameAt d cur ls stop) {left : ℕ} (hleft : ls.length < left) (fin : Option ℕ) :
    ∃ atRef, WalksAlike d left cur fin (some (stop, atRef)) ls (some (fin.getD stop)) := by
  -- on the labels; `fin` is the end that a pointer in front has fixed
  induction h generalizing left fin with
  | @root n cur p hn hlead h =>
      obtain ⟨left, rfl⟩ := Nat.exists_eq_succ_of_ne_zero (Nat.ne_of_gt hleft)
      have hp : p < d.length := h.length_le (List.cons_ne_nil _ _)
      -- the root label where the walks stand
      cases n with
      | zero =>
          cases hlead
          have hin : SubstringIn d cur ⟨some cur, 0, false⟩ :=
            ⟨by simpa using hp.le, by simp, by simpa using hp⟩
          refine ⟨false, ?_⟩
          have hwalks : WalksAlike d (left + 1) cur fin _ _ _ :=
            walksAlike_end (reads_substring_end h) hin
          simpa [endBehind] using hwalks
      -- the root label behind pointers, which end the name for the one who skips it
      | succ n =>
          have hzero : d[p] = 0 := h.getElem hp
          have hread := reads_substring_behind hlead hn hp (by rw [hzero]; rfl) (by
            rw [hzero]
            exact hp)
          rw [hzero] at hread
          have hbehind : cur + 2 ≤ d.length := by
            cases hlead with
            | hop h ht rest => exact h.length_le (List.cons_ne_nil _ _)
          have hin : SubstringIn d cur ⟨some (p + 1), 0, true⟩ :=
            ⟨by simpa using hp, fun _ => hbehind, by simp⟩
          refine ⟨true, ?_⟩
          have hwalks : WalksAlike d (left + 1) cur fin _ _ _ := walksAlike_end hread hin
          cases fin with
          | none => simpa [endBehind] using hwalks
          | some e => simpa [endBehind] using hwalks
  | @label n cur p stop l ls hn hlead hne hle h rest ih =>
      obtain ⟨left, rfl⟩ := Nat.exists_eq_succ_of_ne_zero (Nat.ne_of_gt (Nat.zero_lt_of_lt hleft))
      have hshort : ls.length < left := by
        rw [List.length_cons] at hleft
        omega
      have hend := h.length_le (List.cons_ne_nil _ _)
      rw [List.length_cons] at hend
      have hbytes : (d.drop (p + 1)).take l.length = l :=
        (show FoundAt ([BitVec.ofNat 8 l.length] ++ l) d p from h).append.2.take_eq
      have hlen : l.length ≠ 0 := mt List.length_eq_zero_iff.mp hne
      -- the same two places, and the rest of the labels by induction
      cases n with
      | zero =>
          cases hlead
          have hin : SubstringIn d cur ⟨some (cur + 1), l.length, false⟩ :=
            ⟨by simpa using (show cur + 1 + l.length ≤ d.length by omega), by simp,
              fun _ _ _ h0 => absurd h0 hlen⟩
          obtain ⟨atRef, hrest⟩ := ih hshort fin
          refine ⟨atRef, ?_⟩
          have hwalks : WalksAlike d (left + 1) cur fin _ _ _ :=
            walksAlike_label (reads_substring_label h hne hle) hin hlen (by simpa using hrest)
          rw [hbytes] at hwalks
          simpa [endBehind] using hwalks
      | succ n =>
          have hp : p < d.length := by omega
          obtain ⟨hz, href, hnat⟩ := length_byte (List.length_pos_iff.mpr hne) hle
          rw [← h.getElem hp] at href hnat
          have hread := reads_substring_behind hlead hn hp href (by omega)
          rw [hnat] at hread
          have hbehind : cur + 2 ≤ d.length := by
            cases hlead with
            | hop h ht rest => exact h.length_le (List.cons_ne_nil _ _)
          have hin : SubstringIn d cur ⟨some (p + 1), l.length, true⟩ :=
            ⟨by simpa using (show p + 1 + l.length ≤ d.length by omega), fun _ => hbehind, by simp⟩
          obtain ⟨atRef, hrest⟩ := ih hshort (some (fin.getD (cur + 2)))
          refine ⟨true, ?_⟩
          have hfin : (if true = true ∧ fin = none then some (cur + 2) else fin) =
              some (fin.getD (cur + 2)) := by
            cases fin <;> simp
          have hwalks : WalksAlike d (left + 1) cur fin _ _ _ :=
            walksAlike_label hread hin hlen (by rw [hfin]; exact hrest)
          rw [hbytes] at hwalks
          simpa [endBehind] using hwalks

/-- A packed name is one, behind its pointers. -/
lemma nameAt_packed {d : List U8} {n cur p : ℕ} {ls : List (List U8)} (hn : n ≤ 16)
    (hlead : LeadsTo d n cur p) (h : FoundAt (packedName ls) d p)
    (hls : ∀ l ∈ ls, l ≠ [] ∧ l.length ≤ 63) :
    NameAt d cur ls (endBehind n cur (p + (packedName ls).length)) := by
  induction ls generalizing n cur p with
  | nil => exact .root hn hlead h
  | cons l ls ih =>
      rw [List.forall_mem_cons] at hls
      rw [packedName_cons] at h
      have hbehind : p + (BitVec.ofNat 8 l.length :: l).length = p + 1 + l.length := by
        rw [List.length_cons]
        omega
      have hrest := h.append.2
      rw [hbehind] at hrest
      have hend : p + (packedName (l :: ls)).length =
          p + 1 + l.length + (packedName ls).length := by
        rw [packedName_cons, List.length_append, ← hbehind]
        omega
      rw [hend]
      exact .label hn hlead hls.1.1 hls.1.2 h.append.1
        (ih (Nat.zero_le _) (.here _) hrest hls.2)

/-! ### Replies -/

/-- So many questions lie from one offset to another: a name, a type and a class each. -/
inductive QuestionsAt (d : List U8) : ℕ → ℕ → ℕ → Prop
  | nil (start : ℕ) : QuestionsAt d start 0 start
  | cons {start stop n behind : ℕ} {ls : List (List U8)} (h : NameAt d start ls stop)
      (hle : ls.length ≤ 64) (rest : QuestionsAt d (stop + 4) n behind) :
      QuestionsAt d start (n + 1) behind

/-- A PTR record lies at an offset: the name of its owner, its type, its class and its time to
live, the length of its data, and its data, which is a name. -/
structure PtrRecordAt (d : List U8) (start : ℕ) (name : List (List U8)) (next : ℕ) : Prop where
  ptr : ∃ owner stop dataStop, ∃ length : ℕ, NameAt d start owner stop ∧ owner.length ≤ 64 ∧
    2 ≤ length ∧ length < 2 ^ 16 ∧ FoundAt (be16 (BitVec.ofNat 16 length)) d (stop + 8) ∧
    NameAt d (stop + 10) name dataStop ∧ name.length ≤ 64 ∧
    next = stop + 10 + length ∧ next ≤ d.length

/-- So do the records with some names, one after the other. -/
inductive PtrRecordsAt (d : List U8) : ℕ → List (List (List U8)) → Prop
  | nil (start : ℕ) : PtrRecordsAt d start []
  | cons {start next : ℕ} {name : List (List U8)} {names : List (List (List U8))}
      (h : PtrRecordAt d start name next) (rest : PtrRecordsAt d next names) :
      PtrRecordsAt d start (name :: names)

/-- A reply: the header, its questions, and an answer for each of the names. What lies behind
them is left open. -/
structure PtrReply (d : List U8) (names : List (List (List U8))) : Prop where
  header : MDNS_HEADER_SIZE ≤ d.length
  questions : ∃ start, QuestionsAt d MDNS_HEADER_SIZE (mdnsCount d 4) start ∧
    PtrRecordsAt d start names
  answers : mdnsCount d 6 = names.length

/-- What a record of a name is found to be. -/
def MdnsVisit.ofName (ls : List (List U8)) : MdnsVisit :=
  .name ((Labels.dotted DOT ls).take MDNS_PTR_NAME_SIZE) true

/-- Questions are skipped. -/
lemma QuestionsAt.skips {d : List U8} {start n behind : ℕ} (h : QuestionsAt d start n behind) :
    mdnsSkipQuestions d d.length n start = .ok (some behind) := by
  induction h with
  | nil start => rfl
  | cons h hle rest ih =>
      obtain ⟨atRef, hwalks⟩ := h.walksAlike (Nat.lt_succ_of_le hle) none
      rw [mdnsSkipQuestions, hwalks.reads_skip.eq]
      exact ih

/-- **A record is found** with the text of its name. -/
lemma PtrRecordAt.visit {d : List U8} {start next : ℕ} {name : List (List U8)}
    (h : PtrRecordAt d start name next) (hshort : d.length ≤ MDNS_RESPONSE_BUFFER_SIZE) :
    mdnsVisitAt d start = some (.ofName name, next) := by
  obtain ⟨owner, stop, dataStop, length, howner, hole, hlo, hhi, hlength, hname, hnle, rfl, hin⟩ :=
    h.ptr
  obtain ⟨atRef, hwalks⟩ := howner.walksAlike (Nat.lt_succ_of_le hole) none
  obtain ⟨atRef', hdata⟩ := hname.walksAlike
    (show name.length < MDNS_MAX_SUBSTRINGS + 1 from Nat.lt_succ_of_le hnle) none
  -- the first walk ends behind the owner's name, where the fields are
  have hafter : mdnsOffsetAfter d start = stop := by
    rw [mdnsOffsetAfter, hwalks.reads_skip.eq]
    rfl
  -- the second takes the name of the node out of the data
  have htext : mdnsTextAt d (stop + 10) =
      ((Labels.dotted DOT name).take MDNS_PTR_NAME_SIZE, true) := by
    have hfits : MdnsOutput.Fits
        ⟨List.replicate MDNS_PTR_NAME_SIZE 0, 0, MDNS_PTR_NAME_SIZE⟩ := by
      simp [MdnsOutput.Fits]
    rw [mdnsTextAt, (hdata.extracts _ hfits).eq]
    simp only [MdnsOutput.write, Memory.take_splice_end _ (Nat.zero_le _), List.take_zero,
      List.nil_append]
    rfl
  -- the length is the field in front of the data
  have hfield : (ofLe16 (d.getD (stop + 9) 0) (d.getD (stop + 8) 0)).toNat = length := by
    have hat9 : stop + 9 < d.length := by omega
    have hat8 : stop + 8 < d.length := by omega
    have hlow : d[stop + 9] = (BitVec.ofNat 16 length).setWidth 8 :=
      (show FoundAt ([_] ++ [_]) d (stop + 8) from hlength).append.2.getElem hat9
    have hd9 : d.getD (stop + 9) 0 = d[stop + 9] := by simp [hat9]
    have hd8 : d.getD (stop + 8) 0 = d[stop + 8] := by simp [hat8]
    rw [hd9, hd8, hlow, hlength.getElem hat8, ofLe16_le16, BitVec.toNat_ofNat,
      Nat.mod_eq_of_lt hhi]
  rw [MDNS_RESPONSE_BUFFER_SIZE] at hshort
  simp only [mdnsVisitAt, hafter, htext, hfield]
  rw [if_neg (by omega), if_neg (by omega), if_pos (by omega), if_pos hlo]
  rfl

/-- One after the other. -/
lemma PtrRecordsAt.visits {d : List U8} {start : ℕ} {names : List (List (List U8))}
    (h : PtrRecordsAt d start names) (hshort : d.length ≤ MDNS_RESPONSE_BUFFER_SIZE) :
    mdnsVisits d names.length start = names.map .ofName := by
  induction h with
  | nil start => rfl
  | @cons start next name names h rest ih =>
      have hgoesOn : ¬ (MdnsVisit.ofName name).Faults := by
        simp [MdnsVisit.ofName, MdnsVisit.Faults]
      rw [List.length_cons, mdnsVisits, h.visit hshort]
      simp only [if_neg hgoesOn, ih, List.map_cons]

/-- **The records of a reply** are those with its names. -/
lemma PtrReply.visits {d : List U8} {names : List (List (List U8))} (h : PtrReply d names)
    (hshort : d.length ≤ MDNS_RESPONSE_BUFFER_SIZE) :
    datagramVisits d = names.map .ofName := by
  obtain ⟨start, hquestions, hrecords⟩ := h.questions
  rw [datagramVisits, if_neg (Nat.not_lt.mpr h.header), hquestions.skips, h.answers]
  exact hrecords.visits hshort

/-! ### What a reply says -/

/-- The instance and the service a reply is looked for. -/
def AskedFor (query : List U8) (name : List (List U8)) : Prop :=
  mdnsExpected ++ query <+: Labels.dotted DOT name

/-- A name is told from what is asked for by its own bytes. -/
def Differs (query : List U8) (name : List (List U8)) : Prop :=
  ¬ mdnsExpected ++ query <+: Labels.dotted DOT name ∧
    ¬ Labels.dotted DOT name <+: mdnsExpected ++ query

section Reply

variable {query : List U8} {name : List (List U8)}

/-- The array holds enough of a name. -/
lemma sure_ofName_iff (hfits : mdnsExpected.length + query.length ≤ MDNS_PTR_NAME_SIZE) :
    (MdnsVisit.ofName name).Sure query ↔ AskedFor query name := by
  rw [MdnsVisit.ofName, MdnsVisit.Sure, mdnsKey, if_pos hfits, AskedFor, List.prefix_take_iff,
    List.length_append]
  exact and_iff_left hfits

/-- It holds all of one that is no longer than what is asked for. -/
lemma not_open_ofName (hfits : mdnsExpected.length + query.length ≤ MDNS_PTR_NAME_SIZE)
    (hdiff : Differs query name) : ¬ (MdnsVisit.ofName name).Open query := by
  rw [MdnsVisit.ofName, MdnsVisit.Open, mdnsKey, if_pos hfits]
  rintro ⟨hpre, -⟩
  by_cases hcut : (Labels.dotted DOT name).length ≤ MDNS_PTR_NAME_SIZE
  · rw [List.take_of_length_le hcut] at hpre
    exact hdiff.2 hpre
  · have hlen := hpre.length_le
    rw [List.length_take, List.length_append] at hlen
    have hwhole := hpre.eq_of_length_le (by
      rw [List.length_take, List.length_append]
      omega)
    exact hdiff.1 (hwhole ▸ List.take_prefix _ _)

end Reply

/-- What a plain datagram is taken for. -/
lemma mdnsQueryRecvInternal_plain {d : MdnsDatagram} {query : List U8}
    (hfits : mdnsExpected.length + query.length ≤ MDNS_PTR_NAME_SIZE) (hplain : d.Plain query)
    (buffer : Vector U8 MDNS_RESPONSE_BUFFER_SIZE) (namebuffer : Vector U8 MDNS_PTR_NAME_SIZE)
    (addr : BitVec 128) :
    mdnsQueryRecvInternal (some d) buffer namebuffer query addr =
      .ok ((if d.Carries query then some d.source else none).elim (0, addr) (1, ·)) := by
  let r : MdnsReception := ⟨some d, buffer, namebuffer⟩
  have heq : mdnsQueryRecvInternal (some d) buffer namebuffer query addr = _ := r.recv_eq addr
  rw [heq, MdnsReception.answer_plain hfits rfl hplain]
  rfl

/-- **A reply is understood**, however its names are compressed and whatever the stack holds: it
is an answer if one of its names is asked for, and none if each differs from what is. -/
theorem reply_understood {d : MdnsDatagram} {names : List (List (List U8))} {query : List U8}
    (h : PtrReply d.bytes names)
    (hfits : mdnsExpected.length + query.length ≤ MDNS_PTR_NAME_SIZE)
    (buffer : Vector U8 MDNS_RESPONSE_BUFFER_SIZE) (namebuffer : Vector U8 MDNS_PTR_NAME_SIZE)
    (addr : BitVec 128) :
    ((∃ name ∈ names, AskedFor query name) →
        mdnsQueryRecvInternal (some d) buffer namebuffer query addr = .ok (1, d.source)) ∧
      ((∀ name ∈ names, Differs query name) →
        mdnsQueryRecvInternal (some d) buffer namebuffer query addr = .ok (0, addr)) := by
  have hvisits := h.visits d.bytes_le
  have hcarries : d.Carries query ↔ ∃ name ∈ names, AskedFor query name := by
    simp only [MdnsDatagram.Carries, hvisits, List.mem_map, exists_exists_and_eq_and,
      sure_ofName_iff hfits]
  constructor
  · intro hnames
    have hyes := hcarries.mpr hnames
    rw [mdnsQueryRecvInternal_plain hfits (Or.inl hyes), if_pos hyes]
    rfl
  · intro hdiffer
    have hno : ¬ d.Carries query := fun hyes => by
      obtain ⟨name, hname, hnames⟩ := hcarries.mp hyes
      exact (hdiffer name hname).1 hnames
    have hclosed : ∀ v ∈ datagramVisits d.bytes, ¬ v.Open query ∧ v ≠ .short := by
      rw [hvisits, List.forall_mem_map]
      exact fun name hname => ⟨not_open_ofName hfits (hdiffer name hname), MdnsVisit.noConfusion⟩
    rw [mdnsQueryRecvInternal_plain hfits (Or.inr hclosed), if_neg hno]
    rfl

/-- A node names itself, with a pointer to the name of the service in front of its record. -/
def zephyrReply : MdnsDatagram where
  bytes := [0, 0, 0x84, 0, 0, 0, 0, 1, 0, 0, 0, 0] ++ packedName greybusService.labels ++
    [0, 12, 0, 1, 0, 0, 0, 120] ++ be16 9 ++
    6 :: mdnsExpected.dropLast ++ mdnsPointer MDNS_HEADER_SIZE
  source := 1
  bytes_ne := by decide
  bytes_le := by decide

/-- Both halves at the reply that names itself by a pointer. -/
theorem reply_understood_zephyr :
    ((∃ name ∈ [mdnsExpected.dropLast :: greybusService.labels],
          AskedFor greybusService.text name) →
        mdnsQueryRecvInternal (some zephyrReply) (Vector.replicate _ 0) (Vector.replicate _ 0)
          greybusService.text 0 = .ok (1, zephyrReply.source)) ∧
      ((∀ name ∈ [mdnsExpected.dropLast :: greybusService.labels],
          Differs greybusService.text name) →
        mdnsQueryRecvInternal (some zephyrReply) (Vector.replicate _ 0) (Vector.replicate _ 0)
          greybusService.text 0 = .ok (0, 0)) := by
  have hlabels : ∀ l ∈ greybusService.labels, l ≠ [] ∧ l.length ≤ 63 := by decide
  have hservice : FoundAt (packedName greybusService.labels) zephyrReply.bytes 12 := by
    rw [FoundAt]
    decide
  have hpointer : FoundAt (mdnsPointer 12) zephyrReply.bytes 50 := by
    rw [FoundAt]
    decide
  have hdata : NameAt zephyrReply.bytes 43 (mdnsExpected.dropLast :: greybusService.labels) 52 :=
    .label (Nat.zero_le _) (.here 43) (by decide) (by decide) (by rw [FoundAt]; decide)
      (nameAt_packed (by decide) (.hop hpointer (by decide) (.here 12)) hservice hlabels)
  have hrecord : PtrRecordAt zephyrReply.bytes 12
      (mdnsExpected.dropLast :: greybusService.labels) 52 :=
    ⟨greybusService.labels, 33, 52, 9, nameAt_packed (Nat.zero_le _) (.here 12) hservice hlabels,
      by decide, by decide, by decide, by rw [FoundAt]; decide, hdata, by decide, rfl, by decide⟩
  have hreply : PtrReply zephyrReply.bytes [mdnsExpected.dropLast :: greybusService.labels] :=
    ⟨by decide, ⟨12, .nil 12, .cons hrecord (.nil 52)⟩, by decide⟩
  exact reply_understood hreply (by decide) (Vector.replicate _ 0) (Vector.replicate _ 0) 0

end Cc1352Greybus
