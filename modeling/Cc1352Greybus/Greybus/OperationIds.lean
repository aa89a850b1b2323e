import Cc1352Greybus.Greybus.Io
import Cc1352Greybus.Lib.Run

/-!
Operation ids under concurrency: `new_operation_id` as the atomic steps it is
made of, taken by any number of callers in any order.

The counter is wider than an id. The caller that is given the last id sets the
counter back, in a step of its own; a caller that comes in between is given the
id 0.

* `idStep`: one atomic step of one caller.
* `newOperationId_alone`: a caller that nobody interrupts.
* `ids_valid_iff`: the ids of a run are valid exactly when nobody increments while
  the counter has yet to be set back.
* `id_zero_issued`: two callers, 65534 requests later.
-/

namespace Cc1352Greybus

/-- `UINT16_MAX`, in an `atomic_val_t` -/
def UINT16_MAX : BitVec 32 := 0xffff

/-- How many ids there are: all of 16 bits but 0. -/
def ID_PERIOD : ℕ := 65535

/-- Where a caller is in `new_operation_id`. -/
inductive Caller
  /-- before `atomic_inc`, or outside -/
  | idle
  /-- before the comparison of `temp` -/
  | compares (temp : BitVec 32)
  /-- before `atomic_set` -/
  | sets
  deriving DecidableEq

/-- `operation_id_counter`, the callers, and the ids given out, in the order of the
increments that fixed them. -/
structure IdState (ι : Type*) where
  counter : BitVec 32
  caller : ι → Caller
  issued : List U16

/-- An atomic step of a caller. -/
inductive IdOp (ι : Type*)
  | inc (i : ι)
  | compare (i : ι)
  | set (i : ι)

/-- The state as the loader leaves it. -/
def IdState.boot (ι : Type*) : IdState ι := ⟨1, fun _ => .idle, []⟩

variable {ι : Type*} [DecidableEq ι]

namespace IdState

/-- `temp = atomic_inc(&operation_id_counter)` -/
def inc (s : IdState ι) (i : ι) : IdState ι :=
  ⟨s.counter + 1, Function.update s.caller i (.compares s.counter),
    s.issued ++ [s.counter.setWidth 16]⟩

/-- `temp == UINT16_MAX`; a caller for which it is not returns `temp`. -/
def compare (s : IdState ι) (i : ι) (temp : BitVec 32) : IdState ι :=
  { s with caller := Function.update s.caller i (if temp = UINT16_MAX then .sets else .idle) }

/-- `atomic_set(&operation_id_counter, OPERATION_ID_START)`, and the return -/
def set (s : IdState ι) (i : ι) : IdState ι :=
  { s with counter := 1, caller := Function.update s.caller i .idle }

section

variable (s : IdState ι) {i j : ι}

@[simp] lemma inc_self : (s.inc i).caller i = .compares s.counter := Function.update_self ..

lemma inc_of_ne (h : j ≠ i) : (s.inc i).caller j = s.caller j := Function.update_of_ne h ..

@[simp] lemma compare_self (temp : BitVec 32) :
    (s.compare i temp).caller i = if temp = UINT16_MAX then .sets else .idle :=
  Function.update_self ..

lemma compare_of_ne {temp : BitVec 32} (h : j ≠ i) : (s.compare i temp).caller j = s.caller j :=
  Function.update_of_ne h ..

@[simp] lemma set_self : (s.set i).caller i = .idle := Function.update_self ..

lemma set_of_ne (h : j ≠ i) : (s.set i).caller j = s.caller j := Function.update_of_ne h ..

end

end IdState

/-- One step of `new_operation_id`. -/
def idStep (s : IdState ι) (op : IdOp ι) (s' : IdState ι) : Prop :=
  match op with
  | .inc i => s.caller i = .idle ∧ s' = s.inc i
  | .compare i => ∃ temp, s.caller i = .compares temp ∧ s' = s.compare i temp
  | .set i => s.caller i = .sets ∧ s' = s.set i

/-! ### One caller -/

/-- The steps of a call. -/
def callOps (i : ι) (temp : BitVec 32) : List (IdOp ι) :=
  [.inc i, .compare i] ++ if temp = UINT16_MAX then [.set i] else []

/-- The counter after a call. -/
def afterCall (temp : BitVec 32) : BitVec 32 := if temp = UINT16_MAX then 1 else temp + 1

/-- The state after a call of a caller that was idle. -/
def IdState.call (s : IdState ι) : IdState ι :=
  ⟨afterCall s.counter, s.caller, s.issued ++ [s.counter.setWidth 16]⟩

/-- A call that nobody interrupts runs through its steps. -/
lemma call_run {s₀ s : IdState ι} {l : List (RunStep (IdState ι) (IdOp ι))} (i : ι)
    (hrun : Run idStep s₀ l s) (hidle : s.caller i = .idle) :
    ∃ l', Run idStep s₀ (l ++ l') s.call ∧ l'.map RunStep.label = callOps i s.counter := by
  have hinc : Run idStep s₀ (l ++ [⟨s, .inc i, s.inc i⟩]) (s.inc i) := hrun.snoc ⟨hidle, rfl⟩
  have hcompare : Run idStep s₀ (l ++ [⟨s, .inc i, s.inc i⟩] ++
      [⟨s.inc i, .compare i, (s.inc i).compare i s.counter⟩]) ((s.inc i).compare i s.counter) :=
    hinc.snoc ⟨s.counter, s.inc_self, rfl⟩
  have hback : Function.update s.caller i .idle = s.caller := by
    rw [← hidle, Function.update_eq_self]
  rw [callOps]
  by_cases hlast : s.counter = UINT16_MAX
  · have hsets : ((s.inc i).compare i s.counter).caller i = .sets := by
      simp [IdState.compare, hlast]
    have hstep : idStep ((s.inc i).compare i s.counter) (.set i)
        (((s.inc i).compare i s.counter).set i) :=
      ⟨hsets, rfl⟩
    have hset := hcompare.snoc hstep
    have hcall : ((s.inc i).compare i s.counter).set i = s.call := by
      simp [IdState.set, IdState.compare, IdState.inc, IdState.call, afterCall, hlast, hback]
    rw [hcall, List.append_assoc, List.append_assoc] at hset
    exact ⟨_, hset, by simp [hlast]⟩
  · have hcall : (s.inc i).compare i s.counter = s.call := by
      simp [IdState.compare, IdState.inc, IdState.call, afterCall, hlast, hback]
    rw [hcall, List.append_assoc] at hcompare
    exact ⟨_, hcompare, by simp [hlast]⟩

/-- **Alone**, the steps of a call do what `new_operation_id` does in one. -/
theorem newOperationId_alone {io io' : Io} {id : U16} (hlt : io.operationIdCounter < 2 ^ 32 - 1)
    (h : Effects.Ends newOperationId io id io') :
    id = (BitVec.ofNat 32 io.operationIdCounter).setWidth 16 ∧
      BitVec.ofNat 32 io'.operationIdCounter =
        afterCall (BitVec.ofNat 32 io.operationIdCounter) := by
  obtain ⟨rfl, rfl⟩ := Effects.ends_modifyGet.mp h
  have hmax : BitVec.ofNat 32 io.operationIdCounter = UINT16_MAX ↔
      io.operationIdCounter = 0xffff := by
    rw [← BitVec.toNat_inj, BitVec.toNat_ofNat, Nat.mod_eq_of_lt (by omega)]
    rfl
  refine ⟨by simp, ?_⟩
  rw [afterCall]
  simp only [hmax]
  split_ifs
  · rfl
  · rw [BitVec.ofNat_add]
    rfl

/-! ### Valid ids -/

/-- No id is 0, and an id comes again only after all others have. -/
structure IdsValid (ids : List U16) : Prop where
  nonzero : 0 ∉ ids
  spaced : ∀ (i j : ℕ) (hi : i < ids.length) (hj : j < ids.length), i < j → ids[i] = ids[j] →
    i + ID_PERIOD ≤ j

/-- The first ids, in order. -/
def firstIds (n : ℕ) : List U16 := (List.range n).map fun k => BitVec.ofNat 16 (k % ID_PERIOD + 1)

lemma firstIds_succ (n : ℕ) :
    firstIds (n + 1) = firstIds n ++ [BitVec.ofNat 16 (n % ID_PERIOD + 1)] := by
  simp [firstIds, List.range_succ]

lemma toNat_id (k : ℕ) : (BitVec.ofNat 16 (k % ID_PERIOD + 1)).toNat = k % ID_PERIOD + 1 := by
  rw [BitVec.toNat_ofNat, ID_PERIOD]
  omega

/-- Ids given out in order are valid. -/
lemma firstIds_valid (n : ℕ) : IdsValid (firstIds n) := by
  constructor
  · intro h
    obtain ⟨k, -, hk⟩ := List.mem_map.mp h
    have := toNat_id k
    rw [hk] at this
    simp at this
  · intro i j hi hj hlt heq
    simp only [firstIds, List.getElem_map, List.getElem_range] at heq
    have hmod := congrArg BitVec.toNat heq
    rw [toNat_id, toNat_id] at hmod
    rw [ID_PERIOD] at hmod ⊢
    omega

/-! ### Any number of callers -/

/-- A caller has been given the last id and has yet to set the counter back. -/
def Caller.SetsBack : Caller → Prop
  | .idle => False
  | .compares temp => temp = UINT16_MAX
  | .sets => True

/-- Some caller has yet to set the counter back. -/
def IdState.Wraps (s : IdState ι) : Prop := ∃ i, (s.caller i).SetsBack

/-- What holds while nobody increments before the counter is set back: ids are
given out in order, and one caller at most is about to set it back. -/
structure InOrder (s : IdState ι) : Prop where
  issued : s.issued = firstIds s.issued.length
  counter : ¬ s.Wraps → s.counter = BitVec.ofNat 32 (s.issued.length % ID_PERIOD + 1)
  wraps : s.Wraps → s.counter = 0x10000 ∧ s.issued.length % ID_PERIOD = 0
  unique : ∀ i j, (s.caller i).SetsBack → (s.caller j).SetsBack → i = j

/-- An increment finds the counter set back. -/
def MayStep (s : IdState ι) : IdOp ι → Prop
  | .inc _ => ¬ s.Wraps
  | .compare _ => True
  | .set _ => True

omit [DecidableEq ι] in
lemma inOrder_boot : InOrder (IdState.boot ι) := by
  refine ⟨rfl, fun _ => rfl, ?_, fun _ _ h => h.elim⟩
  rintro ⟨i, h⟩
  exact h.elim

omit [DecidableEq ι] in
lemma InOrder.valid {s : IdState ι} (h : InOrder s) : IdsValid s.issued :=
  h.issued ▸ firstIds_valid _

/-- An increment that finds the counter set back gives out the next id. -/
lemma inOrder_inc {s : IdState ι} (i : ι) (h : InOrder s) (hno : ¬ s.Wraps) :
    InOrder (s.inc i) := by
  have hcounter := h.counter hno
  have hlen : (s.inc i).issued.length = s.issued.length + 1 := by simp [IdState.inc]
  have hmod : s.issued.length % ID_PERIOD < ID_PERIOD := Nat.mod_lt _ (by decide)
  have hnat : s.counter.toNat = s.issued.length % ID_PERIOD + 1 := by
    rw [hcounter, BitVec.toNat_ofNat]
    rw [ID_PERIOD] at hmod ⊢
    omega
  -- only the caller that increments can be about to set the counter back
  have hcaller : ∀ j, ((s.inc i).caller j).SetsBack ↔ j = i ∧ s.counter = UINT16_MAX := by
    intro j
    rcases eq_or_ne j i with rfl | hne
    · simp [IdState.inc, Caller.SetsBack]
    · rw [s.inc_of_ne hne]
      exact iff_of_false (fun hj => hno ⟨j, hj⟩) fun hj => hne hj.1
  have hwraps : (s.inc i).Wraps ↔ s.counter = UINT16_MAX := by
    rw [IdState.Wraps]
    simp only [hcaller]
    exact ⟨fun ⟨_, hj⟩ => hj.2, fun hj => ⟨i, rfl, hj⟩⟩
  have hlast : s.counter = UINT16_MAX ↔ s.issued.length % ID_PERIOD + 1 = ID_PERIOD := by
    rw [← hnat, ← BitVec.toNat_inj]
    rfl
  refine ⟨?_, fun hnot => ?_, fun hw => ?_, fun j k hj hk => ?_⟩
  · rw [hlen, firstIds_succ, ← h.issued, IdState.inc, hcounter]
    simp
  · rw [hwraps, hlast] at hnot
    show s.counter + 1 = _
    rw [hlen, hcounter, show (1 : BitVec 32) = BitVec.ofNat 32 1 from rfl, ← BitVec.ofNat_add]
    congr 1
    rw [ID_PERIOD] at hnot ⊢
    omega
  · rw [hwraps] at hw
    refine ⟨?_, ?_⟩
    · show s.counter + 1 = _
      rw [hw]
      rfl
    · rw [hlast] at hw
      rw [hlen]
      rw [ID_PERIOD] at hw ⊢
      omega
  · exact ((hcaller j).mp hj).1.trans ((hcaller k).mp hk).1.symm

/-- An increment that does not is given the id 0. -/
lemma not_valid_inc {s : IdState ι} (i : ι) (h : InOrder s) (hw : s.Wraps) :
    ¬ IdsValid (s.inc i).issued := by
  rintro ⟨hnonzero, -⟩
  refine hnonzero ?_
  rw [IdState.inc, (h.wraps hw).1]
  exact List.mem_append_right _ (List.mem_singleton.mpr rfl)

/-- A comparison changes nothing but where its caller is. -/
lemma inOrder_compare {s : IdState ι} {i : ι} {temp : BitVec 32} (h : InOrder s)
    (hi : s.caller i = .compares temp) : InOrder (s.compare i temp) := by
  have hcaller : ∀ j, ((s.compare i temp).caller j).SetsBack ↔ (s.caller j).SetsBack := by
    intro j
    rcases eq_or_ne j i with rfl | hne
    · rw [s.compare_self, hi]
      split_ifs with hlast
      · exact iff_of_true trivial hlast
      · exact iff_of_false id hlast
    · rw [s.compare_of_ne hne]
  have hwraps : (s.compare i temp).Wraps ↔ s.Wraps := exists_congr hcaller
  refine ⟨h.issued, fun hno => h.counter fun hw => hno (hwraps.mpr hw),
    fun hw => h.wraps (hwraps.mp hw),
    fun j k hj hk => h.unique j k ((hcaller j).mp hj) ((hcaller k).mp hk)⟩

/-- The caller that sets the counter back is the only one to. -/
lemma inOrder_set {s : IdState ι} {i : ι} (h : InOrder s) (hi : s.caller i = .sets) :
    InOrder (s.set i) := by
  have hsets : (s.caller i).SetsBack := by
    rw [hi]
    trivial
  obtain ⟨-, hmod⟩ := h.wraps ⟨i, hsets⟩
  have hno : ∀ j, ¬ ((s.set i).caller j).SetsBack := by
    intro j hj
    rcases eq_or_ne j i with rfl | hne
    · rw [s.set_self] at hj
      exact hj
    · rw [s.set_of_ne hne] at hj
      exact hne (h.unique j i hj hsets)
  refine ⟨h.issued, fun _ => ?_, fun ⟨j, hj⟩ => absurd hj (hno j), fun j _ hj => absurd hj (hno j)⟩
  show (1 : BitVec 32) = BitVec.ofNat 32 (s.issued.length % ID_PERIOD + 1)
  rw [hmod]
  rfl

/-- One step keeps the ids in order, and valid exactly when an increment finds the
counter set back. -/
lemma idStep_spec {s s' : IdState ι} {op : IdOp ι} (h : InOrder s) (hstep : idStep s op s') :
    (IdsValid s'.issued → InOrder s') ∧ (IdsValid s'.issued ↔ MayStep s op) := by
  have hkeep : InOrder s' → MayStep s op →
      (IdsValid s'.issued → InOrder s') ∧ (IdsValid s'.issued ↔ MayStep s op) := by
    intro h' hmay
    exact ⟨fun _ => h', iff_of_true h'.valid hmay⟩
  cases op with
  | inc i =>
      obtain ⟨-, rfl⟩ := hstep
      by_cases hw : s.Wraps
      · have hbad := not_valid_inc i h hw
        exact ⟨fun hv => absurd hv hbad, iff_of_false hbad fun hmay => hmay hw⟩
      · exact hkeep (inOrder_inc i h hw) hw
  | compare i =>
      obtain ⟨temp, hi, rfl⟩ := hstep
      exact hkeep (inOrder_compare h hi) trivial
  | set i =>
      obtain ⟨hi, rfl⟩ := hstep
      exact hkeep (inOrder_set h hi) trivial

/-- **Operation ids.** Whatever the callers and however their steps interleave, the
ids given out so far are valid in every state of a run exactly when every
increment finds the counter set back. -/
theorem ids_valid_iff {s' : IdState ι} {l : List (RunStep (IdState ι) (IdOp ι))}
    (hrun : Run idStep (.boot ι) l s') :
    (∀ t ∈ l, IdsValid t.post.issued) ↔ ∀ t ∈ l, MayStep t.pre t.label := by
  refine hrun.good_iff (I := fun s => IdsValid s.issued → InOrder s)
    (P := fun s => IdsValid s.issued)
    (G := MayStep) (fun _ => inOrder_boot) inOrder_boot.valid ?_
  exact fun _ _ _ hinv hvalid hstep => idStep_spec (hinv hvalid) hstep

/-- Two callers increment, and then compare. -/
def twoCalls : List (RunStep (IdState Bool) (IdOp Bool)) :=
  let s₁ := (IdState.boot Bool).inc true
  let s₂ := s₁.inc false
  let s₃ := s₂.compare true 1
  [⟨.boot Bool, .inc true, s₁⟩] ++ [⟨s₁, .inc false, s₂⟩] ++ [⟨s₂, .compare true, s₃⟩] ++
    [⟨s₃, .compare false, s₃.compare false 2⟩]

/-- Their ids are valid. -/
theorem ids_valid_iff_two :
    (∀ t ∈ twoCalls, MayStep t.pre t.label) ∧ ∀ t ∈ twoCalls, IdsValid t.post.issued := by
  have hrun : Run idStep (.boot Bool) twoCalls _ :=
    (((Run.single ⟨rfl, rfl⟩).snoc ⟨rfl, rfl⟩).snoc ⟨1, rfl, rfl⟩).snoc ⟨2, rfl, rfl⟩
  have hmay : ∀ t ∈ twoCalls, MayStep t.pre t.label := by
    intro t ht
    simp only [twoCalls, List.mem_append, List.mem_singleton] at ht
    obtain ((rfl | rfl) | rfl) | rfl := ht
    · rintro ⟨i, h⟩
      exact h
    · -- one has been given 1, the other has not come yet
      rintro ⟨i, h⟩
      cases i
      · exact h
      · have hlast : (1 : BitVec 32) = UINT16_MAX := h
        exact absurd hlast (by decide)
    · trivial
    · trivial
  exact ⟨hmay, (ids_valid_iff hrun).mpr hmay⟩

/-! ### Two callers at the end of the ids -/

/-- One caller after the other gets as far as the last id. -/
lemma exists_run_counter (n : ℕ) (hn : n < ID_PERIOD) :
    ∃ (l : List (RunStep (IdState Bool) (IdOp Bool))) (issued : List U16),
      Run idStep (.boot Bool) l ⟨BitVec.ofNat 32 (n + 1), fun _ => .idle, issued⟩ := by
  induction n with
  | zero => exact ⟨[], [], .nil⟩
  | succ n ih =>
      obtain ⟨l, issued, hrun⟩ := ih (by omega)
      obtain ⟨l', hrun', -⟩ := call_run true hrun rfl
      have hlt : BitVec.ofNat 32 (n + 1) ≠ UINT16_MAX := by
        intro h
        have := congrArg BitVec.toNat h
        rw [ID_PERIOD] at hn
        simp [UINT16_MAX] at this
        omega
      rw [IdState.call, afterCall, if_neg hlt, show (1 : BitVec 32) = BitVec.ofNat 32 1 from rfl,
        ← BitVec.ofNat_add] at hrun'
      exact ⟨_, _, hrun'⟩

/-- A caller that increments before the other has set the counter back is given
the id 0. -/
theorem id_zero_issued :
    ¬ ∀ (s' : IdState Bool) (l : List (RunStep (IdState Bool) (IdOp Bool))),
      Run idStep (.boot Bool) l s' → ∀ t ∈ l, IdsValid t.post.issued := by
  intro h
  obtain ⟨l, issued, hrun⟩ := exists_run_counter 65534 (by decide)
  set s : IdState Bool := ⟨BitVec.ofNat 32 (65534 + 1), fun _ => .idle, issued⟩
  have hfirst : Run idStep (.boot Bool) (l ++ [⟨s, .inc true, s.inc true⟩]) (s.inc true) :=
    hrun.snoc ⟨rfl, rfl⟩
  have hsecond : Run idStep (.boot Bool) (l ++ [⟨s, .inc true, s.inc true⟩] ++
      [⟨s.inc true, .inc false, (s.inc true).inc false⟩]) ((s.inc true).inc false) :=
    hfirst.snoc ⟨s.inc_of_ne Bool.false_ne_true, rfl⟩
  have hvalid := h _ _ hsecond _ (List.mem_append_right _ (List.mem_singleton_self _))
  refine hvalid.nonzero ?_
  simp [IdState.inc, s]

end Cc1352Greybus
