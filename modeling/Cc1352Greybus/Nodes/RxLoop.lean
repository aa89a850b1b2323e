import Cc1352Greybus.Greybus.NodeRx
import Cc1352Greybus.Nodes.Removal

/-!
What the receive loop does to one node because of another.

`gb_message_receive` writes its `flag` only when a read comes back short, and
the loop takes a `flag` that is set for a close of the socket it has just read.
So a close is remembered until a read fails, and meanwhile the nodes whose
messages arrive whole are removed in its place.

* `ServedRight`: one socket served as it should be; `servedRight_iff`: when.
* `flagAfter_iff`: the flag, in terms of what has been received.
* `rxLoop_iff`: a run serves every socket right exactly when a read fails between
  any close and any later message.
* `close_removes_other`: a node that closes, and the next one that speaks.
-/

namespace Cc1352Greybus

open Effects PackedArray

variable {cfg : Config} (env : Env)

/-! ### One socket -/

/-- A receive returned a message. -/
def Received.IsFull : Received → Prop
  | .full _ _ => True
  | _ => False

/-- A socket is served right: a node is removed for it only if it is the node's
own, and broke or delivered no message, and a message it delivered is handed to
`connection_send` under the node's id. -/
structure ServedRight (fd : ℤ) (r : Revents) (s s' : Fw cfg) : Prop where
  removed : ∀ p, .moduleRemoved p ∈ newEvents s s' ∨ .intfDealloc p ∈ newEvents s s' →
    (∃ e ∈ s.core.nodeCache, e.sock = fd ∧ e.inf = p) ∧
      (r.Bad ∨ ∃ rcv : Received, ¬ rcv.IsFull ∧ .received fd rcv ∈ newEvents s s')
  handed : ∀ cport msg, .received fd (.full cport msg) ∈ newEvents s s' →
    ∃ e ∈ s.core.nodeCache, e.sock = fd ∧ .connectionSend e.id cport msg ∈ newEvents s s'

/-- The receives of a stretch of the trace. -/
def outcomes (tr : List Event) : List Received := tr.filterMap fun
  | .received _ rcv => some rcv
  | _ => none

lemma outcomes_append (tr tr' : List Event) : outcomes (tr ++ tr') = outcomes tr ++ outcomes tr' :=
  List.filterMap_append

lemma outcomes_eq_nil {tr : List Event} (h : ∀ sock rcv, .received sock rcv ∉ tr) :
    outcomes tr = [] := by
  refine List.filterMap_eq_nil_iff.mpr fun e he => ?_
  cases e with
  | received sock rcv => exact absurd he (h sock rcv)
  | _ => rfl

/-- What is found among heap events, a receive and what comes after it. -/
lemma mem_read {heap tail : List Event} (hheap : ∀ e ∈ heap, e.isHeap = true) {fd : ℤ}
    {rcv : Received} {e : Event} (he : e.isHeap = false) :
    e ∈ heap ++ .received fd rcv :: tail ↔ e = .received fd rcv ∨ e ∈ tail := by
  have hnot : e ∉ heap := by
    intro hmem
    rw [hheap e hmem] at he
    cases he
  rw [List.mem_append, List.mem_cons, or_iff_right hnot]

/-- A socket that is read: something is received, and what is left is a report of
the node or the message handed on, by the flag. -/
lemma nodeRxReceive_ends {fd : ℤ} {e : NodeItem} {flag flag' : Bool} {s s' : Fw cfg}
    (hid : e.id ≠ AP_INF_ID) (h : Ends (nodeRxReceive env fd e flag) s flag' s') :
    ∃ (rcv : Received) (heap tail : List Event), (∀ ev ∈ heap, ev.isHeap = true) ∧
      newEvents s s' = heap ++ .received fd rcv :: tail ∧ flag' = (rcv.returns flag).2 ∧
      ((flag' = true ∨ ¬ rcv.IsFull) ∧ Reports s.core e.inf tail ∧
          s'.core = s.core.afterReport env e.inf ∨
        flag' = false ∧ s'.core = s.core ∧ ∃ cport msg, rcv = .full cport msg ∧
          ((nodeToApCport s.core.nodeApMap e.id cport).isSome → msg.FitsFrame cfg) ∧
          tail = sendEvents (nodeToApCport s.core.nodeApMap e.id cport) e.id cport msg) := by
  rw [nodeRxReceive] at h
  obtain ⟨m, s₁, h₁, h⟩ := ends_bind.mp h
  obtain ⟨io₁, hrecv, rfl⟩ := ends_liftIo.mp h₁
  obtain ⟨rcv, io₂, ⟨heap, hheap, hio₂⟩, rfl, hio₁⟩ := gbMessageReceive_ends env hrecv
  rw [hio₂, List.append_assoc] at hio₁
  -- what a report leaves behind
  have hreport : Ends (do
      discard (svcSendModuleRemoved env e.inf)
      return (rcv.returns flag).2) (⟨s.core, io₁⟩ : Fw cfg) flag' s' →
      flag' = (rcv.returns flag).2 ∧ ∃ tail, newEvents s s' = heap ++ .received fd rcv :: tail ∧
        Reports s.core e.inf tail ∧ s'.core = s.core.afterReport env e.inf := by
    intro h
    obtain ⟨_, s₂, h₂, h⟩ := ends_bind.mp h
    obtain ⟨ret, hrem⟩ := ends_discard.mp h₂
    obtain ⟨hcore, tail, hrep, htrace⟩ := svcSendModuleRemoved_ends env hrem
    obtain ⟨rfl, rfl⟩ := ends_pure.mp h
    exact ⟨rfl, tail, by simp [newEvents, htrace, hio₁], hrep, hcore⟩
  rw [nodeRxHandle] at h
  by_cases hflag : (rcv.returns flag).2 = true
  · rw [if_pos hflag] at h
    obtain ⟨rfl, tail, hevents, hrep, hcore⟩ := hreport h
    exact ⟨rcv, heap, tail, hheap, hevents, rfl, Or.inl ⟨Or.inl hflag, hrep, hcore⟩⟩
  rw [if_neg hflag] at h
  have hmissing : ¬ rcv.IsFull → (rcv.returns flag).1 = none := by
    intro hnot
    cases rcv with
    | full cport msg => exact absurd trivial hnot
    | closed => rfl
    | failed => rfl
    | noMemory => rfl
  by_cases hfull : rcv.IsFull
  swap
  · rw [hmissing hfull] at h
    obtain ⟨rfl, tail, hevents, hrep, hcore⟩ := hreport h
    exact ⟨rcv, heap, tail, hheap, hevents, rfl, Or.inl ⟨Or.inr hfull, hrep, hcore⟩⟩
  · obtain ⟨cport, msg, rfl⟩ : ∃ cport msg, rcv = .full cport msg := by
      cases rcv with
      | full cport msg => exact ⟨cport, msg, rfl⟩
      | closed => exact hfull.elim
      | failed => exact hfull.elim
      | noMemory => exact hfull.elim
    dsimp only [Received.returns] at h hflag
    obtain ⟨_, s₂, h₂, h⟩ := ends_bind.mp h
    obtain ⟨ret, hsend⟩ := ends_discard.mp h₂
    rw [connectionSend, if_neg hid] at hsend
    obtain ⟨hfit, -, rfl⟩ := ends_connectionSendToAp.mp hsend
    obtain ⟨rfl, rfl⟩ := ends_pure.mp h
    exact ⟨_, heap, _, hheap, by simp [newEvents, hio₁], rfl,
      Or.inr ⟨Bool.eq_false_of_not_eq_true hflag, rfl, cport, msg, rfl, hfit, rfl⟩⟩

lemma IdsIssued.afterReport {c : Core cfg} (h : IdsIssued c) (p : Ptr) :
    IdsIssued (c.afterReport env p) := by
  rw [Core.afterReport]
  split_ifs
  · exact fun e he => h e (mem_of_mem_removeById he)
  · exact h

/-- A socket that is served: it broke, there is nothing to do, or it is read. -/
lemma nodeRxServe_cases {fd : ℤ} {r : Revents} {flag flag' : Bool} {s s' : Fw cfg}
    (h : Ends (nodeRxServe env fd r flag) s flag' s') :
    (r.Bad ∧ flag' = flag ∧ ReportsBySock env s.core fd s'.core (newEvents s s')) ∨
      (flag' = flag ∧ s' = s) ∨
      ∃ i e, nodeCacheFindBySock s.core.nodeCache fd = some (i, e) ∧
        Ends (nodeRxReceive env fd e flag) s flag' s' := by
  by_cases hbad : r.Bad
  · obtain ⟨rfl, hreport⟩ := (ends_nodeRxServe_bad hbad).mp h
    obtain ⟨tr, hrep, htrace⟩ := svcSendModuleRemovedBySock_ends env hreport
    have hevents : newEvents s s' = tr := by simp [newEvents, htrace]
    exact Or.inl ⟨hbad, rfl, hevents ▸ hrep⟩
  · rcases (ends_nodeRxServe_good hbad).mp h with ⟨-, rfl, rfl⟩ | ⟨-, i, e, hfind, hread⟩
    · exact Or.inr (Or.inl ⟨rfl, rfl⟩)
    · exact Or.inr (Or.inr ⟨i, e, hfind, hread⟩)

@[simp] lemma newEvents_self (s : Fw cfg) : newEvents s s = [] := List.drop_length

section ReportsBySock

variable {env} {c c₁ : Core cfg} {fd : ℤ} {tr : List Event}

/-- A report of the node found at a socket is of a node with that socket. -/
lemma ReportsBySock.removed (h : ReportsBySock env c fd c₁ tr) {p : Ptr}
    (hp : .moduleRemoved p ∈ tr ∨ .intfDealloc p ∈ tr) :
    ∃ e ∈ c.nodeCache, e.sock = fd ∧ e.inf = p := by
  rcases h.cases with ⟨-, rfl⟩ | ⟨e, he, hsock, -, hrep⟩
  · simp at hp
  · refine ⟨e, he, hsock, ?_⟩
    rcases hp with hp | hp
    · exact (hrep.mem_moduleRemoved.mp hp).symm
    · exact (hrep.mem_intfDealloc.mp hp).2.symm

lemma ReportsBySock.not_mem_received (h : ReportsBySock env c fd c₁ tr) (sock : ℤ)
    (rcv : Received) :
    .received sock rcv ∉ tr := by
  rcases h.cases with ⟨-, rfl⟩ | ⟨e, -, -, -, hrep⟩
  · exact List.not_mem_nil
  · exact hrep.not_mem_received

lemma ReportsBySock.idsIssued (h : ReportsBySock env c fd c₁ tr) (hids : IdsIssued c) :
    IdsIssued c₁ := by
  rcases h.cases with ⟨rfl, -⟩ | ⟨e, -, -, rfl, -⟩
  · exact hids
  · exact hids.afterReport env e.inf

end ReportsBySock

section Read

variable {env} {fd : ℤ} {r : Revents} {flag : Bool} {s s' : Fw cfg} {e : NodeItem} {rcv : Received}
  {heap tail : List Event}

/-- A node reported after a receive is reported rightly if the receive returned
no message. -/
lemma servedRight_reported (hids : IdsIssued s.core) (hmem : e ∈ s.core.nodeCache)
    (hsock : e.sock = fd) (hheap : ∀ ev ∈ heap, ev.isHeap = true)
    (hevents : newEvents s s' = heap ++ .received fd rcv :: tail)
    (hrep : Reports s.core e.inf tail) : ServedRight fd r s s' ↔ ¬ rcv.IsFull := by
  constructor
  -- a full message would be handed on, and a report hands nothing on
  · rintro hright hfull
    cases rcv with
    | full cport msg =>
        have hsent := hright.handed cport msg
        rw [hevents, mem_read hheap rfl] at hsent
        obtain ⟨d, hd, -, hsent⟩ := hsent (Or.inl rfl)
        rw [mem_read hheap rfl] at hsent
        rcases hsent with hsent | hsent
        · cases hsent
        · exact (hids.ne hd).1 (hrep.mem_connectionSend hsent)
    | closed => exact hfull
    | failed => exact hfull
    | noMemory => exact hfull
  · intro hfull
    -- a report is of the entry polled, after a receive that returned no message
    refine ⟨fun p hp => ⟨⟨e, hmem, hsock, ?_⟩, Or.inr ⟨rcv, hfull, ?_⟩⟩, fun cport msg hrecv => ?_⟩
    · rw [hevents, mem_read hheap rfl, mem_read hheap rfl] at hp
      rcases hp with (hp | hp) | hp | hp
      · cases hp
      · exact (hrep.mem_moduleRemoved.mp hp).symm
      · cases hp
      · exact (hrep.mem_intfDealloc.mp hp).2.symm
    · rw [hevents, mem_read hheap rfl]
      exact Or.inl rfl
    · rw [hevents, mem_read hheap rfl] at hrecv
      rcases hrecv with hrecv | hrecv
      · cases hrecv
        exact (hfull trivial).elim
      · exact absurd hrecv hrep.not_mem_received

/-- Nothing else is done with a message that is handed on. -/
lemma mem_sendEvents {n : ℕ} {link : Option (Fin n)} {id : U8} {cport : U16} {msg : GbMessage}
    {ev : Event} (h : ev ∈ sendEvents link id cport msg) :
    ev = .connectionSend id cport msg ∨ (∃ b, ev = .hdlcBlock b) ∨ ev = .dealloc msg.blk := by
  cases link with
  | none => exact Or.inl (List.mem_singleton.mp h)
  | some c =>
      simp only [sendEvents, List.mem_cons, List.not_mem_nil, or_false] at h
      rcases h with h | h | h
      · exact Or.inl h
      · exact Or.inr (Or.inl ⟨_, h⟩)
      · exact Or.inr (Or.inr h)

/-- A message that is handed on removes no node. -/
lemma servedRight_handed {n : ℕ} {link : Option (Fin n)} {cport : U16} {msg : GbMessage}
    (hmem : e ∈ s.core.nodeCache) (hsock : e.sock = fd) (hheap : ∀ ev ∈ heap, ev.isHeap = true)
    (hevents : newEvents s s' =
      heap ++ .received fd (.full cport msg) :: sendEvents link e.id cport msg) :
    ServedRight fd r s s' := by
  refine ⟨fun p hp => ?_, fun cport' msg' hrecv => ⟨e, hmem, hsock, ?_⟩⟩
  · rw [hevents, mem_read hheap rfl, mem_read hheap rfl] at hp
    rcases hp with (hp | hp) | hp | hp
    · cases hp
    · rcases mem_sendEvents hp with h | ⟨b, h⟩ | h <;> cases h
    · cases hp
    · rcases mem_sendEvents hp with h | ⟨b, h⟩ | h <;> cases h
  · rw [hevents, mem_read hheap rfl] at hrecv
    rcases hrecv with hrecv | hrecv
    · cases hrecv
      rw [hevents, mem_read hheap rfl]
      exact Or.inr List.mem_cons_self
    · rcases mem_sendEvents hrecv with h | ⟨b, h⟩ | h <;> cases h

end Read

/-- **One socket** is served right unless it delivers a message while the flag is
set; what it delivers decides the flag. -/
theorem nodeRxServe_ends {fd : ℤ} {r : Revents} {flag flag' : Bool} {s s' : Fw cfg}
    (hids : IdsIssued s.core) (h : Ends (nodeRxServe env fd r flag) s flag' s') :
    IdsIssued s'.core ∧
      ((outcomes (newEvents s s') = [] ∧ flag' = flag ∧ ServedRight fd r s s') ∨
        ∃ rcv, outcomes (newEvents s s') = [rcv] ∧ flag' = (rcv.returns flag).2 ∧
          (ServedRight fd r s s' ↔ flag = true → ¬ rcv.IsFull)) := by
  rcases nodeRxServe_cases env h with ⟨hbad, rfl, hrep⟩ | ⟨rfl, rfl⟩ | ⟨i, e, hfind, hread⟩
  · -- a broken socket is not read
    have hnone := hrep.not_mem_received
    refine ⟨hrep.idsIssued hids, Or.inl ⟨outcomes_eq_nil hnone, rfl, ?_, ?_⟩⟩
    · exact fun p hp => ⟨hrep.removed hp, Or.inl hbad⟩
    · exact fun cport msg hrecv => absurd hrecv (hnone fd (.full cport msg))
  · exact ⟨hids, Or.inl ⟨by simp [outcomes], rfl, by simp, by simp⟩⟩
  obtain ⟨hmem, hsock⟩ := findEntry_some hfind
  have hsock' : e.sock = fd := by simpa using hsock
  obtain ⟨rcv, heap, tail, hheap, hevents, hflag, hrest⟩ :=
    nodeRxReceive_ends env (hids.ne hmem).2 hread
  have hone : (∀ sock x, .received sock x ∉ tail) → outcomes (newEvents s s') = [rcv] := by
    intro htail
    have hheap' : outcomes heap = [] := by
      refine outcomes_eq_nil fun sock x hx => ?_
      cases hheap _ hx
    rw [hevents, outcomes_append, hheap', List.nil_append]
    exact congrArg (rcv :: ·) (outcomes_eq_nil htail)
  rcases hrest with ⟨hwhy, hrep, hcore⟩ | ⟨rfl, hcore, cport, msg, rfl, -, rfl⟩
  · -- the node is reported: rightly, unless a message is there and the flag is set
    refine ⟨hcore ▸ hids.afterReport env e.inf,
      Or.inr ⟨rcv, hone fun sock x => hrep.not_mem_received, hflag, ?_⟩⟩
    rw [servedRight_reported hids hmem hsock' hheap hevents hrep]
    refine ⟨fun h _ => h, fun h hfull => ?_⟩
    rcases hwhy with hset | hnot
    · cases rcv with
      | full cport msg => exact h (hflag.symm.trans hset) hfull
      | closed => exact hfull
      | failed => exact hfull
      | noMemory => exact hfull
    · exact hnot hfull
  · have hset : flag = false := hflag.symm
    refine ⟨hcore ▸ hids, Or.inr ⟨_, hone ?_, hflag, ?_⟩⟩
    · intro sock x hx
      rcases mem_sendEvents hx with h | ⟨b, h⟩ | h <;> cases h
    · refine iff_of_true (servedRight_handed hmem hsock' hheap hevents) fun h => ?_
      rw [hset] at h
      cases h

/-! ### Runs -/

/-- The receives of one step of a run. -/
def stepOutcomes (t : RunStep (RxLoop cfg) RxOp) : List Received :=
  match t.label with
  | .serve => outcomes (newEvents t.pre.fw t.post.fw)
  | _ => []

/-- A step serves its socket right, if it serves one. -/
def ServesRight (t : RunStep (RxLoop cfg) RxOp) : Prop :=
  t.label = .serve → ∀ fd r, t.pre.fds = (fd, r) :: t.post.fds → ServedRight fd r t.pre.fw t.post.fw

lemma ServesRight.served {fd : ℤ} {r : Revents} {flag flag' : Bool} {s s' : Fw cfg}
    {fds : List (ℤ × Revents)}
    (h : ServesRight ⟨⟨s, flag, (fd, r) :: fds⟩, .serve, ⟨s', flag', fds⟩⟩) :
    ServedRight fd r s s' :=
  h rfl fd r rfl

/-- A close has been received, and since then no read has failed. -/
def ClosePending (rcvs : List Received) : Prop := ∃ a b, rcvs = a ++ .closed :: b ∧ .failed ∉ b

/-- No message is received while a close is pending: between a close and any
message received later, on whatever socket, a read has failed. -/
def FailureBetween (rcvs : List Received) : Prop :=
  ∀ a b cport msg c, rcvs = a ++ .closed :: (b ++ .full cport msg :: c) → .failed ∈ b

/-- Where an element stands in a list with one more at its end. -/
lemma concat_eq_append_cons {α : Type*} {l a b : List α} {x y : α} :
    l ++ [x] = a ++ y :: b ↔ (l = a ∧ x = y ∧ b = []) ∨ ∃ b', l = a ++ y :: b' ∧ b = b' ++ [x] := by
  constructor
  · intro h
    rcases List.eq_nil_or_concat b with rfl | ⟨b', z, rfl⟩
    · obtain ⟨rfl, hx⟩ := List.append_inj' h rfl
      exact Or.inl ⟨rfl, by simpa using hx, rfl⟩
    · have h' : l ++ [x] = (a ++ y :: b') ++ [z] := by simpa using h
      obtain ⟨rfl, hx⟩ := List.append_inj' h' rfl
      exact Or.inr ⟨b', rfl, by simpa using hx.symm⟩
  · rintro (⟨rfl, rfl, rfl⟩ | ⟨b', rfl, rfl⟩)
    · rfl
    · simp

lemma closePending_concat (rcvs : List Received) (rcv : Received) :
    ClosePending (rcvs ++ [rcv]) ↔ rcv = .closed ∨ rcv ≠ .failed ∧ ClosePending rcvs := by
  constructor
  · rintro ⟨a, b, h, hb⟩
    rcases concat_eq_append_cons.mp h with ⟨-, hx, -⟩ | ⟨b', hl, rfl⟩
    · exact Or.inl hx
    · rw [List.mem_append, List.mem_singleton, not_or] at hb
      exact Or.inr ⟨Ne.symm hb.2, a, b', hl, hb.1⟩
  · rintro (rfl | ⟨hne, a, b, rfl, hb⟩)
    · exact ⟨rcvs, [], rfl, List.not_mem_nil⟩
    · refine ⟨a, b ++ [rcv], by simp, ?_⟩
      rw [List.mem_append, List.mem_singleton, not_or]
      exact ⟨hb, Ne.symm hne⟩

lemma failureBetween_concat (rcvs : List Received) (rcv : Received) :
    FailureBetween (rcvs ++ [rcv]) ↔ FailureBetween rcvs ∧ (ClosePending rcvs → ¬ rcv.IsFull) := by
  constructor
  · intro h
    refine ⟨fun a b cport msg c hl => h a b cport msg (c ++ [rcv]) (by simp [hl]), ?_⟩
    rintro ⟨a, b, rfl, hb⟩ hfull
    cases rcv with
    | full cport msg => exact hb (h a b cport msg [] (by simp))
    | closed => exact hfull
    | failed => exact hfull
    | noMemory => exact hfull
  · rintro ⟨hall, hlast⟩ a b cport msg c h
    rw [← List.cons_append, ← List.append_assoc] at h
    rcases concat_eq_append_cons.mp h with ⟨hl, rfl, -⟩ | ⟨c', hl, -⟩
    · by_contra hb
      exact hlast ⟨a, b, hl, hb⟩ trivial
    · exact hall a b cport msg c' (by simp [hl])

/-- The flag a run of receives leaves. -/
def flagAfter (flag : Bool) (rcvs : List Received) : Bool :=
  rcvs.foldl (fun f rcv => (rcv.returns f).2) flag

lemma flagAfter_concat (flag : Bool) (rcvs : List Received) (rcv : Received) :
    flagAfter flag (rcvs ++ [rcv]) = (rcv.returns (flagAfter flag rcvs)).2 := by
  rw [flagAfter, List.foldl_append]
  rfl

/-- It is set exactly while a close is pending. -/
lemma flagAfter_iff (rcvs : List Received) : flagAfter false rcvs = true ↔ ClosePending rcvs := by
  induction rcvs using List.reverseRecOn with
  | nil => simp [flagAfter, ClosePending]
  | append_singleton rcvs rcv ih =>
      rw [closePending_concat, ← ih, flagAfter_concat]
      cases rcv with
      | full cport msg => simp [Received.returns]
      | closed => simp [Received.returns]
      | failed => simp [Received.returns]
      | noMemory => simp [Received.returns]

/-- One step of the loop: the flag follows the receives, and what is served is
served right unless a message comes while a close is pending. -/
lemma rxStep_serve {s s' : RxLoop cfg} {rcvs : List Received} (hids : IdsIssued s.fw.core)
    (hflag : s.flag = flagAfter false rcvs) (hstep : rxStep env s .serve s') :
    IdsIssued s'.fw.core ∧ s'.flag = flagAfter false (rcvs ++ stepOutcomes ⟨s, .serve, s'⟩) ∧
      (FailureBetween rcvs ∧ ServesRight ⟨s, .serve, s'⟩ ↔
        FailureBetween (rcvs ++ stepOutcomes ⟨s, .serve, s'⟩)) := by
  obtain ⟨fd, r, hfds, hserve⟩ := hstep
  have hright : ServesRight ⟨s, .serve, s'⟩ ↔ ServedRight fd r s.fw s'.fw := by
    constructor
    · exact fun h => h rfl fd r hfds
    · intro h _ fd' r' hfds'
      obtain ⟨hx, -⟩ := List.cons.inj (hfds.symm.trans hfds')
      cases hx
      exact h
  obtain ⟨hids', hout⟩ := nodeRxServe_ends env hids hserve
  refine ⟨hids', ?_⟩
  rw [hright]
  have hstep : stepOutcomes ⟨s, .serve, s'⟩ = outcomes (newEvents s.fw s'.fw) := rfl
  rw [hstep]
  rcases hout with ⟨hnone, hsame, hserved⟩ | ⟨rcv, hone, hnext, hserved⟩
  · rw [hnone, List.append_nil, hsame]
    exact ⟨hflag, and_iff_left hserved⟩
  · rw [hone, flagAfter_concat, ← hflag, failureBetween_concat, hserved, ← flagAfter_iff, hflag]
    exact ⟨hflag ▸ hnext, Iff.rfl⟩

/-- Between two sockets nothing is received, and the flag stays. -/
lemma rxStep_of_ne {s s' : RxLoop cfg} {op : RxOp} (hop : op ≠ .serve) (hids : IdsIssued s.fw.core)
    (hstep : rxStep env s op s') : IdsIssued s'.fw.core ∧ s'.flag = s.flag ∧
      stepOutcomes ⟨s, op, s'⟩ = [] ∧ ServesRight ⟨s, op, s'⟩ := by
  cases op with
  | serve => exact absurd rfl hop
  | poll revents =>
      cases revents with
      | none =>
          obtain ⟨-, rfl⟩ := hstep
          exact ⟨hids, rfl, rfl, fun h => by cases h⟩
      | some revents =>
          obtain ⟨-, -, rfl⟩ := hstep
          exact ⟨hids, rfl, rfl, fun h => by cases h⟩
  | other =>
      obtain ⟨hids', hflag, -⟩ := hstep
      exact ⟨hids', hflag, rfl, fun h => by cases h⟩

/-- **The receive loop** serves every socket right exactly in the runs in which,
between a close and any message received later, a read has failed. -/
theorem rxLoop_iff {s s' : RxLoop cfg} {l : List (RunStep (RxLoop cfg) RxOp)}
    (hflag : s.flag = false) (hids : IdsIssued s.fw.core) (hrun : Run (rxStep env) s l s') :
    (∀ t ∈ l, ServesRight t) ↔ FailureBetween (l.flatMap stepOutcomes) := by
  suffices h : IdsIssued s'.fw.core ∧ s'.flag = flagAfter false (l.flatMap stepOutcomes) ∧
      ((∀ t ∈ l, ServesRight t) ↔ FailureBetween (l.flatMap stepOutcomes)) from h.2.2
  induction hrun with
  | nil =>
      refine ⟨hids, hflag, iff_of_true (by simp) ?_⟩
      intro a b cport msg c h
      simp at h
  | @snoc l s₁ op s₂ hrun hstep ih =>
      obtain ⟨hids₁, hflag₁, hiff⟩ := ih
      rw [Run.forall_mem_concat, hiff, List.flatMap_append, List.flatMap_singleton]
      by_cases hop : op = .serve
      · subst hop
        exact rxStep_serve env hids₁ hflag₁ hstep
      · obtain ⟨hids₂, hsame, hnone, hright⟩ := rxStep_of_ne env hop hids₁ hstep
        rw [hnone, List.append_nil, hsame]
        exact ⟨hids₂, hflag₁, and_iff_left hright⟩

/-! ### A node that closes, and the next one that speaks -/

/-- Both nodes connected with their cport 0; the first has closed its socket, the
second has sent a message. -/
def spoken : Fw .prjConf :=
  let s := final (connectionCreate calmEnv AP_INF_ID 2 4 0)
    (final (connectionCreate calmEnv AP_INF_ID 1 3 0) withTwoNodes)
  { s with io := { s.io with rx := fun sock =>
      if sock = 0 then [.closed] else [.data 0 (nodeFrame 0 bareRequest).tail] } }

/-- The first socket served. -/
def servedFirst : Fw .prjConf := final (nodeRxServe calmEnv 0 readable false) spoken

/-- The second served. -/
def servedSecond : Fw .prjConf := final (nodeRxServe calmEnv 1 readable true) servedFirst

lemma servedFirst_ends : Ends (nodeRxServe calmEnv 0 readable false) spoken true servedFirst :=
  ends_final (by decide +kernel)

lemma servedSecond_ends :
    Ends (nodeRxServe calmEnv 1 readable true) servedFirst true servedSecond :=
  ends_final (by decide +kernel)

/-- The loop is about to poll. -/
def rx0 : RxLoop .prjConf := ⟨spoken, false, []⟩

/-- Both sockets are polled. -/
def rx1 : RxLoop .prjConf := ⟨spoken, false, [(0, readable), (1, readable)]⟩

/-- The first is served. -/
def rx2 : RxLoop .prjConf := ⟨servedFirst, true, [(1, readable)]⟩

/-- The second is served. -/
def rx3 : RxLoop .prjConf := ⟨servedSecond, true, []⟩

/-- The steps between them. -/
def rxSteps : List (RunStep (RxLoop .prjConf) RxOp) :=
  [⟨rx0, .poll (some [readable, readable]), rx1⟩] ++ [⟨rx1, .serve, rx2⟩] ++ [⟨rx2, .serve, rx3⟩]

/-- A socket at the head of the list is served. -/
lemma rxStep_of_ends {fd : ℤ} {r : Revents} {flag flag' : Bool} {s s' : Fw cfg}
    {fds : List (ℤ × Revents)} (h : Ends (nodeRxServe env fd r flag) s flag' s') :
    rxStep env ⟨s, flag, (fd, r) :: fds⟩ .serve ⟨s', flag', fds⟩ :=
  ⟨fd, r, rfl, h⟩

/-- The loop polls and serves the first socket. -/
lemma rx2_run : Run (rxStep calmEnv) rx0
    ([⟨rx0, .poll (some [readable, readable]), rx1⟩] ++ [⟨rx1, .serve, rx2⟩]) rx2 := by
  have hsocks : spoken.core.nodeCache.map NodeItem.sock = [0, 1] := by decide +kernel
  have h₁ : rxStep calmEnv rx0 (.poll (some [readable, readable])) rx1 := by
    refine ⟨rfl, by decide +kernel, ?_⟩
    rw [show rx0.fw = spoken from rfl, hsocks]
    rfl
  have h₂ : rxStep calmEnv rx1 .serve rx2 := rxStep_of_ends calmEnv servedFirst_ends
  exact (Run.single h₁).snoc h₂

lemma rxSteps_run : Run (rxStep calmEnv) rx0 rxSteps rx3 := by
  have h₃ : rxStep calmEnv rx2 .serve rx3 := rxStep_of_ends calmEnv servedSecond_ends
  exact rx2_run.snoc h₃

/-- Whether the two sockets are served right. -/
theorem rxLoop_iff_close :
    (∀ t ∈ rxSteps, ServesRight t) ↔ FailureBetween (rxSteps.flatMap stepOutcomes) :=
  rxLoop_iff calmEnv rfl (by decide +kernel) rxSteps_run

/-- The second node's message. -/
def dropped : GbMessage := ⟨3, bareRequest.header, []⟩

/-- The second node's message is dropped for the first one's close. -/
theorem close_removes_other :
    ¬ ∀ (s s' : RxLoop .prjConf) (l : List (RunStep (RxLoop .prjConf) RxOp)), s.flag = false →
      IdsIssued s.fw.core → Run (rxStep calmEnv) s l s' → ∀ t ∈ l, ServesRight t := by
  intro h
  have hlast : ServesRight ⟨rx2, .serve, rx3⟩ :=
    h rx0 rx3 rxSteps rfl (by decide +kernel) rxSteps_run
    ⟨rx2, .serve, rx3⟩ (List.mem_append_right _ (List.mem_singleton_self _))
  have hrecv : .received 1 (.full 0 dropped) ∈ newEvents servedFirst servedSecond := by
    decide +kernel
  have hnone : ∀ e ∈ servedFirst.core.nodeCache,
      .connectionSend e.id 0 dropped ∉ newEvents servedFirst servedSecond := by decide +kernel
  obtain ⟨e, he, -, hsent⟩ := (ServesRight.served hlast).handed 0 dropped hrecv
  exact hnone e he hsent

end Cc1352Greybus
