import Cc1352Greybus.Hdlc.RoundTrip
import Cc1352Greybus.Lib.Run
import Mathlib.Data.List.DropRight

/-!
Several callers of `hdlc_block_send_sync` on one UART, each a process whose steps
are its calls of `send_frame_cb`.

Nothing keeps a caller off the line while another is in the middle of a frame.

* `sendStep`: a caller comes, puts one byte, or returns.
* `senders_deliver`: the receiver is given each block once and nothing else, as
  long as nobody puts a byte into another's frame.
* `frame_broken`: two callers, one of which does.
-/

namespace Cc1352Greybus

/-- A call of `hdlc_block_send_sync`, and how many bytes it has put. -/
structure SendCall where
  block : Block
  put : ℕ
  deriving DecidableEq

/-- The bytes of the call: one for each call of `send_frame_cb`. -/
def SendCall.bytes (seq : U8) (c : SendCall) : List U8 := c.block.sent seq

/-- The call has put some of what goes between its flags, but not all of it. -/
def SendCall.Midway (seq : U8) (c : SendCall) : Prop := 1 < c.put ∧ c.put + 1 < (c.bytes seq).length

/-- The callers, the line and the blocks whose call has returned. -/
structure SendState (ι : Type*) where
  call : ι → Option SendCall
  /-- the bytes on the line, with who put them -/
  line : List (ι × U8)
  returned : List Block

/-- A step of a caller. -/
inductive SendOp (ι : Type*)
  | call (i : ι) (b : Block)
  | put (i : ι)
  | ret (i : ι)

/-- Nobody has sent anything. -/
def SendState.boot (ι : Type*) : SendState ι := ⟨fun _ => none, [], []⟩

namespace SendState

variable {ι : Type*} (s : SendState ι)

/-- The bytes on the line. -/
def bytes : List U8 := s.line.map Prod.snd

/-- What stands on the line since the last flag. -/
def since : List (ι × U8) := s.line.rtakeWhile fun p => p.2 ≠ HDLC_FRAME

/-- What the receiver has been told. -/
def told {cfg : Config} (drv : HdlcDriver cfg) : List (U8 × ℕ × List U8) :=
  (hdlcProcessBuffer (hdlcInit drv) s.bytes).2.map RxFrame.told

variable [DecidableEq ι]

/-- `i` calls `hdlc_block_send_sync`. -/
def begin (i : ι) (b : Block) : SendState ι :=
  { s with call := Function.update s.call i (some ⟨b, 0⟩) }

/-- `i` puts a byte. -/
def put (i : ι) (c : SendCall) (x : U8) : SendState ι :=
  { s with
    call := Function.update s.call i (some { c with put := c.put + 1 })
    line := s.line ++ [(i, x)] }

/-- `i` returns. -/
def ret (i : ι) (c : SendCall) : SendState ι :=
  { s with
    call := Function.update s.call i none
    returned := s.returned ++ [c.block] }

end SendState

variable {ι : Type*} [DecidableEq ι]

/-- One step of one caller. -/
def sendStep (cfg : Config) (seq : U8) (s : SendState ι) (op : SendOp ι)
    (s' : SendState ι) : Prop :=
  match op with
  | .call i b => s.call i = none ∧ b.Receivable cfg ∧ s' = s.begin i b
  | .put i => ∃ c x, s.call i = some c ∧ (c.bytes seq)[c.put]? = some x ∧ s' = s.put i c x
  | .ret i => ∃ c, s.call i = some c ∧ c.put = (c.bytes seq).length ∧ s' = s.ret i c

/-- The receiver has been given every block whose call has returned, some of those
whose call has not, each once and unmodified, and nothing else. -/
def Delivers {cfg : Config} (drv : HdlcDriver cfg) (s : SendState ι) : Prop :=
  ∃ out : List (ι × Block), (out.map Prod.fst).Nodup ∧
    (∀ p ∈ out, ∃ n, s.call p.1 = some ⟨p.2, n⟩) ∧
    (s.told drv).Perm ((s.returned ++ out.map Prod.snd).map Block.told)

/-- A byte goes into no frame of another caller: a flag comes while nobody is midway,
any other byte while all bytes since the last flag are the caller's own. -/
def MayPut (seq : U8) (s : SendState ι) : SendOp ι → Prop
  | .put i => ∀ c x, s.call i = some c → (c.bytes seq)[c.put]? = some x →
      if x = HDLC_FRAME then ∀ j d, s.call j = some d → ¬ d.Midway seq
      else ∀ p ∈ s.since, p.1 = i
  | _ => True

/-! ### The bytes of a call -/

section

variable {cfg : Config} {seq : U8} {c : SendCall}

/-- A call's bytes: its stuffed content between two flags. -/
lemma SendCall.bytes_eq (hb : c.block.Receivable cfg) :
    c.bytes seq = HDLC_FRAME :: (hdlcStuffing.stuff c.block.content ++ [HDLC_FRAME]) :=
  Block.sent_eq seq hb

/-- There is something between the flags. -/
lemma SendCall.two_lt (hb : c.block.Receivable cfg) : 2 < (c.bytes seq).length := by
  have hne : hdlcStuffing.stuff c.block.content ≠ [] := by
    intro h
    have hread := Stuffing.unstuff_stuff (S := hdlcStuffing) [] c.block.content
    rw [h] at hread
    have hcontent := congrArg Stuffing.Reader.content hread
    simp [Block.content, frameContent] at hcontent
  have := List.length_pos_iff.mpr hne
  rw [c.bytes_eq hb]
  simp only [List.length_cons, List.length_append, List.length_nil]
  omega

/-- Only the first and the last byte are flags. -/
lemma SendCall.flag_iff (hb : c.block.Receivable cfg) {k : ℕ} {x : U8}
    (hx : (c.bytes seq)[k]? = some x) :
    x = HDLC_FRAME ↔ k = 0 ∨ k + 1 = (c.bytes seq).length := by
  have hnoflag := hdlcStuffing.flag_notMem_stuff c.block.content
  rw [c.bytes_eq hb] at hx ⊢
  cases k with
  | zero =>
      rw [List.getElem?_cons_zero, Option.some_inj] at hx
      exact iff_of_true hx.symm (Or.inl rfl)
  | succ k =>
      rw [List.getElem?_cons_succ] at hx
      simp only [Nat.succ_ne_zero, false_or, List.length_cons, List.length_append, List.length_nil]
      rcases lt_trichotomy k (hdlcStuffing.stuff c.block.content).length with hlt | heq | hgt
      · rw [List.getElem?_append_left hlt] at hx
        have hmem := List.mem_of_getElem? hx
        refine iff_of_false ?_ (by omega)
        rintro rfl
        exact hnoflag hmem
      · rw [List.getElem?_append_right heq.ge, heq, Nat.sub_self, List.getElem?_cons_zero,
          Option.some_inj] at hx
        exact iff_of_true hx.symm (by omega)
      · rw [List.getElem?_eq_none (by simp; omega)] at hx
        cases hx

/-- What a call has put since its opening flag, one byte on. -/
lemma SendCall.take_succ_tail {k : ℕ} {x : U8} (hk : 0 < k) (hx : (c.bytes seq)[k]? = some x) :
    ((c.bytes seq).take (k + 1)).tail = ((c.bytes seq).take k).tail ++ [x] := by
  have hlt : k < (c.bytes seq).length := (List.getElem?_eq_some_iff.mp hx).1
  rw [List.take_add_one, hx, Option.toList_some, List.tail_append_of_ne_nil]
  intro h
  have := congrArg List.length h
  rw [List.length_take, List.length_nil] at this
  omega

/-- All a call puts before its closing flag. -/
lemma SendCall.take_all_tail (hb : c.block.Receivable cfg) {k : ℕ}
    (hk : k + 1 = (c.bytes seq).length) :
    ((c.bytes seq).take k).tail = hdlcStuffing.stuff c.block.content := by
  rw [c.bytes_eq hb] at hk ⊢
  simp only [List.length_cons, List.length_append, List.length_nil] at hk
  rw [show k = (hdlcStuffing.stuff c.block.content).length + 1 by omega, List.take_succ_cons,
    List.tail_cons, List.take_left]

end

/-! ### What orderly steps keep -/

/-- What stands on the line since the last flag is what `i` has put of its content. -/
structure SendState.Holds (seq : U8) (s : SendState ι) (i : ι) (c : SendCall) : Prop where
  call : s.call i = some c
  since : s.since = ((c.bytes seq).take c.put).tail.map fun x => (i, x)
  some : s.since ≠ []
  short : c.put < (c.bytes seq).length

/-- All of a call's content is on the line, with a flag behind it. -/
def SendState.Out (seq : U8) (s : SendState ι) (i : ι) (b : Block) : Prop :=
  (∃ n, s.call i = some ⟨b, n⟩ ∧ (b.sent seq).length ≤ n + 1) ∧ ∀ p ∈ s.since, p.1 ≠ i

/-- What has been given to the receiver is what has returned and what is out. -/
def SendState.ToldOut {cfg : Config} (drv : HdlcDriver cfg) (seq : U8) (s : SendState ι) : Prop :=
  ∃ out : List (ι × Block), (out.map Prod.fst).Nodup ∧ (∀ p, p ∈ out ↔ s.Out seq p.1 p.2) ∧
    (s.told drv).Perm ((s.returned ++ out.map Prod.snd).map Block.told)

/-- The line, the callers and the receiver agree. -/
structure Framed {cfg : Config} (drv : HdlcDriver cfg) (seq : U8) (s : SendState ι) : Prop where
  fits : ∀ i c, s.call i = some c → c.block.Receivable cfg
  reader : hdlcStuffing.unstuff ⟨false, []⟩ s.bytes =
    hdlcStuffing.unstuff ⟨false, []⟩ (s.since.map Prod.snd)
  held : s.since = [] ∨ ∃ i c, s.Holds seq i c
  midway : ∀ i c, s.call i = some c → c.Midway seq → s.Holds seq i c
  told : s.ToldOut drv seq

namespace SendState

variable (s : SendState ι) {i j : ι} {c : SendCall} {x : U8}

lemma bytes_put : (s.put i c x).bytes = s.bytes ++ [x] := by simp [bytes, put]

lemma since_put_flag : (s.put i c HDLC_FRAME).since = [] := by simp [since, put]

lemma since_put_of_ne (hx : x ≠ HDLC_FRAME) : (s.put i c x).since = s.since ++ [(i, x)] := by
  simp [since, put, hx]

@[simp] lemma put_self : (s.put i c x).call i = some { c with put := c.put + 1 } :=
  Function.update_self ..

lemma put_of_ne (h : j ≠ i) : (s.put i c x).call j = s.call j := Function.update_of_ne h ..

@[simp] lemma begin_self (b : Block) : (s.begin i b).call i = some ⟨b, 0⟩ := Function.update_self ..

lemma begin_of_ne (b : Block) (h : j ≠ i) : (s.begin i b).call j = s.call j :=
  Function.update_of_ne h ..

@[simp] lemma ret_self : (s.ret i c).call i = none := Function.update_self ..

lemma ret_of_ne (h : j ≠ i) : (s.ret i c).call j = s.call j := Function.update_of_ne h ..

end SendState

section

variable {cfg : Config} {drv : HdlcDriver cfg} {seq : U8} {s : SendState ι}

omit [DecidableEq ι] in
/-- The bytes since the last flag are one caller's. -/
lemma SendState.Holds.owner {i : ι} {c : SendCall} (h : s.Holds seq i c) {p : ι × U8}
    (hp : p ∈ s.since) : p.1 = i := by
  rw [h.since] at hp
  obtain ⟨x, -, rfl⟩ := List.mem_map.mp hp
  rfl

omit [DecidableEq ι] in
lemma SendState.Holds.exists_mem {i : ι} {c : SendCall} (h : s.Holds seq i c) :
    ∃ p ∈ s.since, p.1 = i := by
  obtain ⟨p, hp⟩ := List.exists_mem_of_ne_nil _ h.some
  exact ⟨p, hp, h.owner hp⟩

omit [DecidableEq ι] in
/-- A call that holds the line is past its opening flag. -/
lemma SendState.Holds.one_lt {i : ι} {c : SendCall} (h : s.Holds seq i c) : 1 < c.put := by
  by_contra hle
  refine h.some ?_
  have hnil : ((c.bytes seq).take c.put).tail = [] := by
    rw [← List.length_eq_zero_iff, List.length_tail, List.length_take]
    omega
  rw [h.since, hnil, List.map_nil]

omit [DecidableEq ι] in
lemma framed_boot : Framed drv seq (.boot ι) := by
  refine ⟨?_, rfl, Or.inl rfl, ?_, [], List.nodup_nil, ?_, List.Perm.refl _⟩
  · rintro i c ⟨⟩
  · rintro i c ⟨⟩
  · rintro p
    refine iff_of_false List.not_mem_nil ?_
    rintro ⟨⟨n, ⟨⟩, -⟩, -⟩

omit [DecidableEq ι] in
lemma Framed.delivers (h : Framed drv seq s) : Delivers drv s := by
  obtain ⟨out, hnodup, hout, htold⟩ := h.told
  refine ⟨out, hnodup, fun p hp => ?_, htold⟩
  obtain ⟨⟨n, hn, -⟩, -⟩ := (hout p).mp hp
  exact ⟨n, hn⟩

/-- A caller comes. -/
lemma framed_begin {i : ι} {b : Block} (h : Framed drv seq s) (hi : s.call i = none)
    (hb : b.Receivable cfg) : Framed drv seq (s.begin i b) := by
  -- nobody who is midway is the new caller
  have hholds : ∀ j c, s.Holds seq j c → (s.begin i b).Holds seq j c := by
    intro j c hj
    have hne : j ≠ i := by
      rintro rfl
      rw [hj.call] at hi
      cases hi
    exact ⟨(s.begin_of_ne b hne).trans hj.call, hj.since, hj.some, hj.short⟩
  refine ⟨fun j c hj => ?_, h.reader, ?_, fun j c hj hmid => ?_, ?_⟩
  · rcases eq_or_ne j i with rfl | hne
    · rw [s.begin_self, Option.some_inj] at hj
      exact hj ▸ hb
    · rw [s.begin_of_ne b hne] at hj
      exact h.fits j c hj
  · exact h.held.imp_right fun ⟨j, c, hj⟩ => ⟨j, c, hholds j c hj⟩
  -- a caller that has put nothing is not midway
  · rcases eq_or_ne j i with rfl | hne
    · rw [s.begin_self, Option.some_inj] at hj
      exact absurd hmid.1 (by rw [← hj]; exact Nat.not_lt.mpr (Nat.zero_le 1))
    · rw [s.begin_of_ne b hne] at hj
      exact hholds j c (h.midway j c hj hmid)
  · obtain ⟨out, hnodup, hout, htold⟩ := h.told
    refine ⟨out, hnodup, fun p => (hout p).trans ?_, htold⟩
    refine and_congr_left fun _ => ?_
    rcases eq_or_ne p.1 i with hp | hne
    · have hlen : 2 < (b.sent seq).length := SendCall.two_lt (c := ⟨b, 0⟩) hb
      rw [hp, hi, s.begin_self]
      refine iff_of_false (by simp) ?_
      rintro ⟨n, hn, hle⟩
      cases hn
      omega
    · rw [s.begin_of_ne b hne]

/-- What the receiver has been told, one byte on. -/
lemma told_put (i : ι) (c : SendCall) (x : U8) :
    (s.put i c x).told drv = s.told drv ++
      ((hdlcRxInputByte (hdlcAfter drv s.bytes) x).2.map RxFrame.told).toList := by
  rw [SendState.told, SendState.told, s.bytes_put, hdlcProcessBuffer_append, List.map_append]
  congr 1
  show (((hdlcRxInputByte (hdlcAfter drv s.bytes) x).2.toList ++ []).map RxFrame.told) = _
  rw [List.append_nil]
  cases (hdlcRxInputByte (hdlcAfter drv s.bytes) x).2 <;> rfl

omit [DecidableEq ι] in
/-- A caller that may put a byte of its content finds on the line what it has put so
far. -/
lemma Framed.since_of_own {i : ι} {c : SendCall} (h : Framed drv seq s) (hi : s.call i = some c)
    (h0 : 0 < c.put) (hlast : c.put + 1 < (c.bytes seq).length) (hown : ∀ p ∈ s.since, p.1 = i) :
    s.since = ((c.bytes seq).take c.put).tail.map fun x => (i, x) := by
  rcases h.held with hnil | ⟨j, d, hj⟩
  · have hput : c.put = 1 := by
      by_contra hput
      exact (h.midway i c hi ⟨by omega, hlast⟩).some hnil
    rw [hnil, hput, c.bytes_eq (h.fits i c hi)]
    rfl
  · obtain ⟨p, hp, hpj⟩ := hj.exists_mem
    have hji : j = i := hpj.symm.trans (hown p hp)
    subst hji
    have hd : d = c := Option.some_inj.mp (hj.call.symm.trans hi)
    subst hd
    exact hj.since

/-- A caller puts a byte of its content while the line is its own. -/
lemma framed_put_content {i : ι} {c : SendCall} {x : U8} (h : Framed drv seq s)
    (hi : s.call i = some c) (hx : (c.bytes seq)[c.put]? = some x) (hne : x ≠ HDLC_FRAME)
    (hown : ∀ p ∈ s.since, p.1 = i) : Framed drv seq (s.put i c x) := by
  have hb := h.fits i c hi
  have hlt : c.put < (c.bytes seq).length := (List.getElem?_eq_some_iff.mp hx).1
  obtain ⟨h0, hlast⟩ := not_or.mp (mt (SendCall.flag_iff hb hx).mpr hne)
  -- since the flag, the line has only bytes of this caller
  have hsince := h.since_of_own hi (Nat.pos_of_ne_zero h0) (by omega) hown
  have hsince' := s.since_put_of_ne (i := i) (c := c) hne
  have hholds : (s.put i c x).Holds seq i { c with put := c.put + 1 } := by
    refine ⟨s.put_self, ?_, by simp [hsince'], by show c.put + 1 < (c.bytes seq).length; omega⟩
    show (s.put i c x).since = ((c.bytes seq).take (c.put + 1)).tail.map fun x => (i, x)
    rw [hsince', hsince, SendCall.take_succ_tail (Nat.pos_of_ne_zero h0) hx, List.map_append]
    rfl
  refine ⟨fun j d hj => ?_, ?_, Or.inr ⟨i, _, hholds⟩, fun j d hj hmid => ?_, ?_⟩
  · rcases eq_or_ne j i with rfl | hji
    · rw [s.put_self, Option.some_inj] at hj
      exact hj ▸ hb
    · exact h.fits j d ((s.put_of_ne hji).symm.trans hj)
  -- the reader has unstuffed them, and this one after them
  · rw [s.bytes_put, hsince', Stuffing.unstuff_append, h.reader, List.map_append,
      Stuffing.unstuff_append]
    rfl
  -- anybody else midway would have a byte on the line
  · rcases eq_or_ne j i with rfl | hji
    · rw [s.put_self, Option.some_inj] at hj
      exact hj ▸ hholds
    · rw [s.put_of_ne hji] at hj
      obtain ⟨p, hp, hpj⟩ := (h.midway j d hj hmid).exists_mem
      exact absurd (hpj.symm.trans (hown p hp)) hji
  · obtain ⟨out, hnodup, hout, htold⟩ := h.told
    refine ⟨out, hnodup, fun p => (hout p).trans ?_, ?_⟩
    · rcases eq_or_ne p.1 i with hp | hji
      · -- the byte put is the caller's own, and it had more to put
        refine iff_of_false ?_ fun hp' => hp'.2 (i, x) (by simp [hsince']) hp.symm
        rintro ⟨⟨n, hn, hle⟩, -⟩
        rw [hp, hi, Option.some_inj] at hn
        have hle' : (c.bytes seq).length ≤ c.put + 1 := by
          rw [hn]
          exact hle
        omega
      · rw [SendState.Out, SendState.Out, s.put_of_ne hji, hsince']
        refine and_congr_right fun _ => ?_
        have hfree : ∀ q ∈ s.since ++ [(i, x)], q.1 ≠ p.1 := by
          intro q hq
          rcases List.mem_append.mp hq with hq | hq
          · exact fun hqp => hji (hqp.symm.trans (hown q hq))
          · rw [List.mem_singleton.mp hq]
            exact hji.symm
        exact iff_of_true (fun q hq => hfree q (List.mem_append_left _ hq)) hfree
    · rw [told_put, input_of_ne_flag _ hne, Option.map_none, Option.toList_none, List.append_nil]
      exact htold

omit [DecidableEq ι] in
/-- With nobody midway, the line holds nothing or a whole content. -/
lemma Framed.content_of_not_midway (h : Framed drv seq s)
    (hno : ∀ j d, s.call j = some d → ¬ d.Midway seq) (hne : s.since ≠ []) :
    ∃ j d, s.Holds seq j d ∧ d.put + 1 = (d.bytes seq).length ∧
      s.since.map Prod.snd = hdlcStuffing.stuff d.block.content := by
  obtain ⟨j, d, hj⟩ := h.held.resolve_left hne
  have hput : d.put + 1 = (d.bytes seq).length := by
    have hshort := hj.short
    by_contra hput
    exact hno j d hj.call ⟨hj.one_lt, by omega⟩
  refine ⟨j, d, hj, hput, ?_⟩
  rw [hj.since, List.map_map, SendCall.take_all_tail (h.fits j d hj.call) hput]
  exact List.map_id _

/-- Which calls have put all of their content does not change with a flag. -/
lemma out_put_flag {i : ι} {c : SendCall} (hi : s.call i = some c) (hb : c.block.Receivable cfg)
    (hput : c.put = 0 ∨ c.put + 1 = (c.bytes seq).length) (j : ι) (b : Block) :
    (∃ n, (s.put i c HDLC_FRAME).call j = some ⟨b, n⟩ ∧ (b.sent seq).length ≤ n + 1) ↔
      ∃ n, s.call j = some ⟨b, n⟩ ∧ (b.sent seq).length ≤ n + 1 := by
  rcases eq_or_ne j i with rfl | hji
  · have hlen : 2 < (c.block.sent seq).length := SendCall.two_lt hb
    have hput' : c.put = 0 ∨ c.put + 1 = (c.block.sent seq).length := hput
    rw [s.put_self, hi]
    constructor
    · rintro ⟨n, hn, hle⟩
      cases hn
      exact ⟨c.put, rfl, by omega⟩
    · rintro ⟨n, hn, hle⟩
      cases hn
      exact ⟨n + 1, rfl, by omega⟩
  · rw [s.put_of_ne hji]

omit [DecidableEq ι] in
/-- What a flag after nothing, or after a whole content, does to the receiver. -/
lemma told_flag {w : List U8} (hread : hdlcStuffing.unstuff ⟨false, []⟩ s.bytes = ⟨false, w⟩) :
    (w = [] → (hdlcRxInputByte (hdlcAfter drv s.bytes) HDLC_FRAME).2.map RxFrame.told = none) ∧
      ∀ b : Block, b.Receivable cfg → w = b.content →
        (hdlcRxInputByte (hdlcAfter drv s.bytes) HDLC_FRAME).2.map RxFrame.told = some b.told := by
  have hflag := callback_at_flag drv s.bytes
  rw [contentSince, hread] at hflag
  constructor
  · rintro rfl
    rw [if_neg (by rw [kept_nil]; exact fun ha => absurd ha.1 (by decide))] at hflag
    rw [hflag]
    rfl
  · rintro b hb rfl
    have hle := Block.content_length_le hb
    rw [kept_of_length_le hle, coveredCrc_of_length_le hle,
      if_pos (Block.accepted_content hb)] at hflag
    obtain ⟨f, hf, hd⟩ := hflag
    rw [hf, Option.map_some, told_of_describes hd]

/-- A caller puts a flag while nobody is midway. -/
lemma framed_put_flag {i : ι} {c : SendCall} (h : Framed drv seq s) (hi : s.call i = some c)
    (hx : (c.bytes seq)[c.put]? = some HDLC_FRAME)
    (hno : ∀ j d, s.call j = some d → ¬ d.Midway seq) : Framed drv seq (s.put i c HDLC_FRAME) := by
  have hb := h.fits i c hi
  have hput := (SendCall.flag_iff hb hx).mp rfl
  have hsince' := s.since_put_flag (i := i) (c := c)
  have hout' := out_put_flag hi hb hput
  -- no escape is pending, and the content read is nothing or a block's
  obtain ⟨w, hread, hcase⟩ : ∃ w, hdlcStuffing.unstuff ⟨false, []⟩ s.bytes = ⟨false, w⟩ ∧
      (s.since = [] ∧ w = [] ∨ ∃ j d, s.Holds seq j d ∧ d.put + 1 = (d.bytes seq).length ∧
        w = d.block.content) := by
    rw [h.reader]
    by_cases hnil : s.since = []
    · exact ⟨[], by rw [hnil]; rfl, Or.inl ⟨hnil, rfl⟩⟩
    · obtain ⟨j, d, hj, hput, hw⟩ := h.content_of_not_midway hno hnil
      exact ⟨_, by rw [hw, Stuffing.unstuff_stuff, List.nil_append], Or.inr ⟨j, d, hj, hput, rfl⟩⟩
  refine ⟨fun j d hj => ?_, ?_, Or.inl hsince', fun j d hj hmid => ?_, ?_⟩
  · rcases eq_or_ne j i with rfl | hji
    · rw [s.put_self, Option.some_inj] at hj
      exact hj ▸ hb
    · exact h.fits j d ((s.put_of_ne hji).symm.trans hj)
  · rw [s.bytes_put, hsince', Stuffing.unstuff_append, hread, Stuffing.unstuff_cons]
    exact Stuffing.read_flag (S := hdlcStuffing) _
  · rcases eq_or_ne j i with rfl | hji
    · rw [s.put_self, Option.some_inj] at hj
      subst hj
      have hmid1 : 1 < c.put + 1 := hmid.1
      have hmid2 : c.put + 1 + 1 < (c.bytes seq).length := hmid.2
      omega
    · exact absurd hmid (hno j d ((s.put_of_ne hji).symm.trans hj))
  · obtain ⟨out, hnodup, hout, htold⟩ := h.told
    have hclosed : ∀ j b, (s.put i c HDLC_FRAME).Out seq j b ↔
        ∃ n, s.call j = some ⟨b, n⟩ ∧ (b.sent seq).length ≤ n + 1 := by
      intro j b
      rw [SendState.Out, hout', hsince']
      exact and_iff_left (by simp)
    rcases hcase with ⟨hnil, hw⟩ | ⟨j, d, hj, hend, hw⟩
    · refine ⟨out, hnodup, fun p => (hout p).trans ?_, ?_⟩
      · rw [hclosed, SendState.Out, hnil]
        exact and_iff_left (by simp)
      · rw [told_put, (told_flag hread).1 hw, Option.toList_none, List.append_nil]
        exact htold
    · -- the flag delivers the block of the caller that holds the line
      have hnot : j ∉ out.map Prod.fst := by
        intro hmem
        obtain ⟨p, hp, rfl⟩ := List.mem_map.mp hmem
        obtain ⟨q, hq, hqj⟩ := hj.exists_mem
        exact ((hout p).mp hp).2 q hq hqj
      refine ⟨(j, d.block) :: out, List.nodup_cons.mpr ⟨hnot, hnodup⟩, fun p => ?_, ?_⟩
      · rw [hclosed, List.mem_cons]
        constructor
        · rintro (rfl | hp)
          · exact ⟨d.put, hj.call, hend.ge⟩
          · exact ((hout p).mp hp).1
        · intro hp
          rcases eq_or_ne p.1 j with hpj | hpj
          · obtain ⟨n, hn, -⟩ := hp
            rw [hpj, hj.call, Option.some_inj] at hn
            exact Or.inl (Prod.ext hpj (by rw [hn]))
          · exact Or.inr ((hout p).mpr ⟨hp, fun q hq hqp => hpj (hqp.symm.trans (hj.owner hq))⟩)
      · rw [told_put, (told_flag hread).2 d.block (h.fits j d hj.call) hw, Option.toList_some]
        calc List.Perm (s.told drv ++ [d.block.told])
              ((s.returned ++ out.map Prod.snd).map Block.told ++ [d.block.told]) :=
              htold.append_right _
          List.Perm _ ((s.returned ++ (out.map Prod.snd ++ [d.block])).map Block.told) := by
              rw [← List.append_assoc]
              exact List.Perm.of_eq (by simp)
          List.Perm _ ((s.returned ++ d.block :: out.map Prod.snd).map Block.told) :=
              ((List.perm_append_singleton _ _).append_left _).map _

/-- A caller returns. -/
lemma framed_ret {i : ι} {c : SendCall} (h : Framed drv seq s) (hi : s.call i = some c)
    (hput : c.put = (c.bytes seq).length) : Framed drv seq (s.ret i c) := by
  -- nobody who is midway is the caller, since it has put all of its bytes
  have hne : ∀ j d, s.Holds seq j d → j ≠ i := by
    rintro j d hj rfl
    have hd : d = c := Option.some_inj.mp (hj.call.symm.trans hi)
    exact absurd hj.short (by rw [hd, hput]; exact lt_irrefl _)
  have hholds : ∀ j d, s.Holds seq j d → (s.ret i c).Holds seq j d := fun j d hj =>
    ⟨(s.ret_of_ne (hne j d hj)).trans hj.call, hj.since, hj.some, hj.short⟩
  -- the calls that are left were there before
  have hcall : ∀ j d, (s.ret i c).call j = some d → j ≠ i ∧ s.call j = some d := by
    intro j d hj
    have hji : j ≠ i := by
      rintro rfl
      rw [s.ret_self] at hj
      cases hj
    exact ⟨hji, (s.ret_of_ne hji).symm.trans hj⟩
  refine ⟨fun j d hj => h.fits j d (hcall j d hj).2, h.reader,
    h.held.imp_right fun ⟨j, d, hj⟩ => ⟨j, d, hholds j d hj⟩,
    fun j d hj hmid => hholds j d (h.midway j d (hcall j d hj).2 hmid), ?_⟩
  obtain ⟨out, hnodup, hout, htold⟩ := h.told
  -- its block has been told, as its line is free
  have hmem : (i, c.block) ∈ out := by
    refine (hout _).mpr ⟨⟨c.put, hi, ?_⟩, fun p hp hpi => ?_⟩
    · show (c.bytes seq).length ≤ c.put + 1
      omega
    · rcases h.held with hnil | ⟨j, d, hj⟩
      · rw [hnil] at hp
        cases hp
      · exact hne j d hj ((hj.owner hp).symm.trans hpi)
  -- it moves from those out to those returned
  have hperm : out.Perm ((i, c.block) :: out.erase (i, c.block)) := List.perm_cons_erase hmem
  have hnodup' := (hperm.map Prod.fst).nodup_iff.mp hnodup
  rw [List.map_cons, List.nodup_cons] at hnodup'
  refine ⟨out.erase (i, c.block), hnodup'.2, fun p => ?_, ?_⟩
  · constructor
    · intro hp
      have hpi : p.1 ≠ i := fun hpi => hnodup'.1 (List.mem_map.mpr ⟨p, hp, hpi⟩)
      obtain ⟨⟨n, hn, hle⟩, hfree⟩ := (hout p).mp (List.mem_of_mem_erase hp)
      exact ⟨⟨n, (s.ret_of_ne hpi).trans hn, hle⟩, hfree⟩
    · rintro ⟨⟨n, hn, hle⟩, hfree⟩
      obtain ⟨hpi, hn⟩ := hcall _ _ hn
      have hp := (hout p).mpr ⟨⟨n, hn, hle⟩, hfree⟩
      refine (List.mem_erase_of_ne ?_).mpr hp
      exact fun heq => hpi (congrArg Prod.fst heq)
  · refine htold.trans (List.Perm.map _ ?_)
    show List.Perm _ (s.returned ++ [c.block] ++ _)
    rw [List.append_assoc]
    exact (hperm.map Prod.snd).append_left _

/-- **One step** that puts no byte into another's frame keeps line, callers and
receiver in agreement. -/
lemma framed_step {s' : SendState ι} {op : SendOp ι} (h : Framed drv seq s)
    (hstep : sendStep cfg seq s op s') (hmay : MayPut seq s op) : Framed drv seq s' := by
  cases op with
  | call i b =>
      obtain ⟨hi, hb, rfl⟩ := hstep
      exact framed_begin h hi hb
  | put i =>
      obtain ⟨c, x, hi, hx, rfl⟩ := hstep
      have hmay' := hmay c x hi hx
      split_ifs at hmay' with hflag
      · subst hflag
        exact framed_put_flag h hi hx hmay'
      · exact framed_put_content h hi hx hflag hmay'
  | ret i =>
      obtain ⟨c, hi, hput, rfl⟩ := hstep
      exact framed_ret h hi hput

end

/-- **Concurrent senders.** Whatever the callers and however their steps interleave,
as long as no byte goes into another's frame the receiver is given, in every state
of the run, each block once and unmodified, and nothing else. -/
theorem senders_deliver {cfg : Config} (drv : HdlcDriver cfg) (seq : U8) {s' : SendState ι}
    {l : List (RunStep (SendState ι) (SendOp ι))} (hrun : Run (sendStep cfg seq) (.boot ι) l s')
    (hguard : ∀ t ∈ l, MayPut seq t.pre t.label) : ∀ t ∈ l, Delivers drv t.post := by
  have hinv := hrun.invariant (I := Framed drv seq) (G := fun s op _ => MayPut seq s op) framed_boot
    (fun _ _ _ h hstep hmay => framed_step h hstep hmay) hguard
  exact fun t ht => (hinv.2 t ht).delivers

/-- A block with nothing in it. -/
def emptyBlock : Block := ⟨0x01, 0x03, []⟩

lemma emptyBlock_receivable : emptyBlock.Receivable .prjConf := ⟨by decide, by decide⟩

/-! ### Two callers -/

/-- Nobody else moves while `i` puts the next `n` bytes of its call. -/
def SendState.puts (s : SendState ι) (seq : U8) (i : ι) (b : Block) (k n : ℕ) : SendState ι :=
  { s with
    call := Function.update s.call i (some ⟨b, k + n⟩)
    line := s.line ++ (((b.sent seq).drop k).take n).map fun x => (i, x) }

/-- These are steps, each from where the ones before it have led. -/
lemma run_puts (cfg : Config) (seq : U8) {s : SendState ι} {i : ι} {b : Block} {k : ℕ}
    (hi : s.call i = some ⟨b, k⟩) (n : ℕ) (hn : k + n ≤ (b.sent seq).length) :
    ∃ l, Run (sendStep cfg seq) s l (s.puts seq i b k n) ∧
      ∀ t ∈ l, t.label = .put i ∧ ∃ m, t.pre = s.puts seq i b k m := by
  induction n with
  | zero =>
      have hcall : Function.update s.call i (some ⟨b, k⟩) = s.call := by
        rw [← hi, Function.update_eq_self]
      have hself : s.puts seq i b k 0 = s := by simp [SendState.puts, hcall]
      rw [hself]
      exact ⟨[], .nil, by simp⟩
  | succ n ih =>
      obtain ⟨l, hrun, hl⟩ := ih (by omega)
      obtain ⟨x, hx⟩ : ∃ x, (b.sent seq)[k + n]? = some x :=
        ⟨_, List.getElem?_eq_getElem (by omega)⟩
      have hstep : sendStep cfg seq (s.puts seq i b k n) (.put i)
          ((s.puts seq i b k n).put i ⟨b, k + n⟩ x) :=
            ⟨⟨b, k + n⟩, x, by simp [SendState.puts], hx, rfl⟩
      have hnext : (s.puts seq i b k n).put i ⟨b, k + n⟩ x = s.puts seq i b k (n + 1) := by
        have htake : ((b.sent seq).drop k).take (n + 1) = ((b.sent seq).drop k).take n ++ [x] := by
          rw [List.take_add_one, List.getElem?_drop, hx, Option.toList_some]
        simp [SendState.puts, SendState.put, htake, Nat.add_assoc]
      refine ⟨_, hnext ▸ hrun.snoc hstep, fun t ht => ?_⟩
      rcases List.mem_append.mp ht with ht | ht
      · exact hl t ht
      · rw [List.mem_singleton.mp ht]
        exact ⟨rfl, n, rfl⟩

omit [DecidableEq ι] in
/-- What stands on the line since the last flag was there before, or is new. -/
lemma mem_rtakeWhile_append {p : ι × U8 → Bool} {l l' : List (ι × U8)} {y : ι × U8}
    (h : y ∈ (l ++ l').rtakeWhile p) : y ∈ l.rtakeWhile p ∨ y ∈ l' := by
  induction l' using List.reverseRecOn with
  | nil =>
      rw [List.append_nil] at h
      exact Or.inl h
  | append_singleton l' x ih =>
      rw [← List.append_assoc, List.rtakeWhile_concat] at h
      split_ifs at h
      · rcases List.mem_append.mp h with h | h
        · exact (ih h).imp_right (List.mem_append_left _)
        · exact Or.inr (List.mem_append_right _ h)
      · cases h

/-- With the line to itself, a caller may put each of its bytes. -/
lemma mayPut_puts {cfg : Config} {seq : U8} {s : SendState ι} {i : ι} {b : Block} {k : ℕ}
    (hb : b.Receivable cfg) (hown : ∀ p ∈ s.since, p.1 = i)
    (hothers : ∀ j d, j ≠ i → s.call j = some d → ¬ d.Midway seq) (m : ℕ) :
    MayPut seq (s.puts seq i b k m) (.put i) := by
  intro c x hc hx
  have hself : (s.puts seq i b k m).call i = some ⟨b, k + m⟩ := Function.update_self ..
  obtain rfl : c = ⟨b, k + m⟩ := Option.some.inj (hc.symm.trans hself)
  split_ifs with hflag
  · -- a flag is the first of its bytes, or the last
    have hends := (SendCall.flag_iff hb hx).mp hflag
    intro j d hj hmid
    rcases eq_or_ne j i with rfl | hne
    · obtain rfl := Option.some.inj (hj.symm.trans hself)
      rcases hends with hzero | hlast
      · exact absurd hmid.1 (by rw [hzero]; decide)
      · exact absurd hmid.2 (by rw [hlast]; exact lt_irrefl _)
    · exact hothers j d hne ((Function.update_of_ne hne _ _).symm.trans hj) hmid
  · intro p hp
    rcases mem_rtakeWhile_append hp with hp | hp
    · exact hown p hp
    · obtain ⟨y, -, rfl⟩ := List.mem_map.mp hp
      rfl

/-- A block with a flag in it. -/
def flagBlock : Block := ⟨0x05, 0x03, [0x7e]⟩

lemma flagBlock_receivable : flagBlock.Receivable .prjConf := ⟨by decide, by decide⟩

/-- Two callers have come. -/
def bothCalled : SendState Bool :=
  ((SendState.boot Bool).begin true emptyBlock).begin false flagBlock

/-- One has put its frame and returned. -/
def firstReturned : SendState Bool :=
  (bothCalled.puts 0 true emptyBlock 0 6).ret true ⟨emptyBlock, 6⟩

/-- So has the other. -/
def bothReturned : SendState Bool :=
  (firstReturned.puts 0 false flagBlock 0 8).ret false ⟨flagBlock, 8⟩

/-- Two callers put their frames one after the other, and both return. -/
theorem senders_deliver_both :
    bothReturned.returned = [emptyBlock, flagBlock] ∧
      Delivers (zeroDriver .prjConf) bothReturned := by
  have h1 : sendStep .prjConf 0 (.boot Bool) (.call true emptyBlock)
      ((SendState.boot Bool).begin true emptyBlock) := ⟨rfl, emptyBlock_receivable, rfl⟩
  have h2 : sendStep .prjConf 0 ((SendState.boot Bool).begin true emptyBlock)
      (.call false flagBlock) bothCalled := ⟨rfl, flagBlock_receivable, rfl⟩
  obtain ⟨l₁, hrun₁, hl₁⟩ := run_puts .prjConf 0 (s := bothCalled) (i := true)
    (b := emptyBlock) (k := 0) rfl 6 (by decide +kernel)
  have h3 : sendStep .prjConf 0 (bothCalled.puts 0 true emptyBlock 0 6) (.ret true)
      firstReturned := ⟨⟨emptyBlock, 6⟩, rfl, by decide +kernel, rfl⟩
  obtain ⟨l₂, hrun₂, hl₂⟩ := run_puts .prjConf 0 (s := firstReturned) (i := false)
    (b := flagBlock) (k := 0) rfl 8 (by decide +kernel)
  have h4 : sendStep .prjConf 0 (firstReturned.puts 0 false flagBlock 0 8) (.ret false)
      bothReturned := ⟨⟨flagBlock, 8⟩, rfl, by decide +kernel, rfl⟩
  have hrun := (((((Run.single h1).snoc h2).append hrun₁).snoc h3).append hrun₂).snoc h4
  -- while one puts its frame, the other has put nothing yet, or has returned
  have hfirst : ∀ m, MayPut 0 (bothCalled.puts 0 true emptyBlock 0 m) (.put true) := by
    refine mayPut_puts emptyBlock_receivable nofun fun j d hne hj => ?_
    obtain rfl : j = false := by simpa using hne
    cases hj
    exact fun hmid => absurd hmid.1 (by decide)
  have hsecond : ∀ m, MayPut 0 (firstReturned.puts 0 false flagBlock 0 m) (.put false) := by
    have hsince : firstReturned.since = [] := by decide +kernel
    refine mayPut_puts flagBlock_receivable (by simp [hsince]) fun j d hne hj => ?_
    obtain rfl : j = true := by simpa using hne
    cases hj
  refine ⟨rfl, senders_deliver (zeroDriver .prjConf) 0 hrun (fun t ht => ?_) _
    (List.mem_append_right _ (List.mem_singleton_self _))⟩
  simp only [List.mem_append, List.mem_singleton] at ht
  obtain ((((rfl | rfl) | ht) | rfl) | ht) | rfl := ht
  · trivial
  · trivial
  · obtain ⟨hlabel, m, hpre⟩ := hl₁ t ht
    rw [hlabel, hpre]
    exact hfirst m
  · trivial
  · obtain ⟨hlabel, m, hpre⟩ := hl₂ t ht
    rw [hlabel, hpre]
    exact hsecond m
  · trivial

/-- Both callers have come, and one has put its opening flag and its address. -/
def midwayState : SendState Bool :=
  (((SendState.boot Bool).begin true emptyBlock).begin false emptyBlock).puts 0 true emptyBlock 0 2

/-- The other puts its opening flag. -/
def brokenState : SendState Bool := midwayState.puts 0 false emptyBlock 0 1

/-- The first puts the rest of its frame. -/
def doneState : SendState Bool := brokenState.puts 0 true emptyBlock 2 4

/-- A flag in the middle of a frame costs the receiver the block. -/
theorem frame_broken :
    ¬ ∀ (s' : SendState Bool) (l : List (RunStep (SendState Bool) (SendOp Bool))),
      Run (sendStep .prjConf 0) (.boot Bool) l s' →
        ∀ t ∈ l, Delivers (zeroDriver .prjConf) t.post := by
  intro hall
  have h1 : sendStep .prjConf 0 (.boot Bool) (.call true emptyBlock)
      ((SendState.boot Bool).begin true emptyBlock) := ⟨rfl, emptyBlock_receivable, rfl⟩
  have h2 : sendStep .prjConf 0 ((SendState.boot Bool).begin true emptyBlock)
      (.call false emptyBlock)
      (((SendState.boot Bool).begin true emptyBlock).begin false emptyBlock) :=
    ⟨rfl, emptyBlock_receivable, rfl⟩
  obtain ⟨l₁, hmid, -⟩ := run_puts .prjConf 0 (s := ((SendState.boot Bool).begin true
    emptyBlock).begin false emptyBlock) (i := true) rfl 2 (by decide +kernel)
  obtain ⟨l₂, hbroken, -⟩ := run_puts .prjConf 0 (s := midwayState) (i := false) rfl 1
    (by decide +kernel)
  obtain ⟨l₃, hdone, -⟩ := run_puts .prjConf 0 (s := brokenState) (i := true) rfl 4
    (by decide +kernel)
  have h3 : sendStep .prjConf 0 doneState (.ret true) (doneState.ret true ⟨emptyBlock, 6⟩) :=
    ⟨⟨emptyBlock, 6⟩, rfl, by decide +kernel, rfl⟩
  have hrun := (((((Run.single h1).snoc h2).append hmid).append hbroken).append hdone).snoc h3
  obtain ⟨out, -, -, htold⟩ := hall _ _ hrun _ (List.mem_append_right _ (List.mem_singleton_self _))
  have hnothing : doneState.told (zeroDriver .prjConf) = [] := by decide +kernel
  have hlen := htold.length_eq
  rw [show (doneState.ret true ⟨emptyBlock, 6⟩).told
    (zeroDriver .prjConf) = [] from hnothing] at hlen
  simp [SendState.ret] at hlen

end Cc1352Greybus
