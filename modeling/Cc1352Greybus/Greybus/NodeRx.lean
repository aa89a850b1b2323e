import Cc1352Greybus.Greybus.Main
import Cc1352Greybus.Lib.Run

/-!
`node_rx_thread_entry` of `src/node.c`: the thread that polls the sockets of the
nodes and passes on what they send.

* `nodeRxServe`: what it does with one socket, once polled. The `flag` it passes
  to `gb_message_receive` outlives the iteration.
* `ends_nodeRxServe_bad`, `ends_nodeRxServe_good`: a socket that is broken, and one
  that is not.
* `rxStep`: the loop, and the other threads between its steps. A socket is served in
  one step: the other threads act before it or after it, and not while
  `gb_message_receive` waits for the rest of a message.
-/

namespace Cc1352Greybus

open Effects

variable {cfg : Config} (env : Env)

/-- The `revents` of a socket the loop asks for. -/
structure Revents where
  nval : Bool
  hup : Bool
  err : Bool
  pollin : Bool
  deriving DecidableEq

/-- The socket is broken. -/
def Revents.Bad (r : Revents) : Prop := r.nval = true ∨ r.hup = true ∨ r.err = true

instance (r : Revents) : Decidable r.Bad := inferInstanceAs (Decidable (_ ∨ _ ∨ _))

/-- A socket with something to read. -/
def readable : Revents := ⟨false, false, false, true⟩

/-- What becomes of a message that has been read from a node, or of the end of one. -/
def nodeRxHandle (e : NodeItem) (r : Option (U16 × GbMessage) × Bool) : FwM cfg Bool :=
  if r.2 = true then do
    discard (svcSendModuleRemoved env e.inf)
    return r.2
  else
    match r.1 with
    | none => do
      discard (svcSendModuleRemoved env e.inf)
      return r.2
    | some (cport, msg) => do
      discard (connectionSend env e.id cport msg)
      return r.2

/-- A message, or the end of one, off the socket of the node that has been found at
`i` in the cache. The entry is read there once more when the message has come in. -/
def nodeRxReceiveAt (fd : ℤ) (i : ℕ) (flag : Bool) : FwM cfg Bool := do
  let r ← liftIo (gbMessageReceive env fd flag)
  let c ← getCore
  match c.nodeCache[i]? with
  | none => throw .outOfBounds
  | some e => nodeRxHandle env e r

/-- The body of the loop over the sockets, with the value it leaves `flag`. -/
def nodeRxServe (fd : ℤ) (r : Revents) (flag : Bool) : FwM cfg Bool :=
  if r.nval = true then do
    svcSendModuleRemovedBySock env fd
    return flag
  else if r.hup = true then do
    svcSendModuleRemovedBySock env fd
    return flag
  else if r.err = true then do
    svcSendModuleRemovedBySock env fd
    return flag
  else if r.pollin = true then do
    let c ← getCore
    match nodeCacheFindBySock c.nodeCache fd with
    | none => return flag
    | some (i, _) => nodeRxReceiveAt env fd i flag
  else return flag

/-- The same as `nodeRxReceiveAt`, of an entry that is still where it has been found. -/
def nodeRxReceive (fd : ℤ) (e : NodeItem) (flag : Bool) : FwM cfg Bool := do
  let r ← liftIo (gbMessageReceive env fd flag)
  nodeRxHandle env e r

/-- Reading a socket moves no entry of the cache. -/
lemma nodeRxReceiveAt_run (fd : ℤ) {i : ℕ} {e : NodeItem} (flag : Bool) {s : Fw cfg}
    (h : s.core.nodeCache[i]? = some e) :
    (nodeRxReceiveAt env fd i flag).run s = (nodeRxReceive env fd e flag).run s := by
  rw [nodeRxReceiveAt, nodeRxReceive, EStateM.run_bind, EStateM.run_bind]
  cases hrecv : (liftIo (gbMessageReceive env fd flag)).run s with
  | error f s' => rfl
  | ok r s' =>
      have hcore : s'.core = s.core := respects_liftIo _ hrecv
      have hentry : s'.core.nodeCache[i]? = some e := by rw [hcore, h]
      show (match s'.core.nodeCache[i]? with
        | none => throw .outOfBounds
        | some e => nodeRxHandle env e r : FwM cfg Bool).run s' = _
      rw [hentry]

/-- So a socket is served by what its cache entry was before. -/
lemma nodeRxServe_eq (fd : ℤ) (r : Revents) (flag : Bool) :
    nodeRxServe env fd r flag =
      (if r.nval = true then do
        svcSendModuleRemovedBySock env fd
        return flag
      else if r.hup = true then do
        svcSendModuleRemovedBySock env fd
        return flag
      else if r.err = true then do
        svcSendModuleRemovedBySock env fd
        return flag
      else if r.pollin = true then do
        let c ← getCore
        match nodeCacheFindBySock c.nodeCache fd with
        | none => return flag
        | some (_, e) => nodeRxReceive env fd e flag
      else return flag : FwM cfg Bool) := by
  rw [nodeRxServe]
  split_ifs
  · rfl
  · rfl
  · rfl
  -- with the entry still at the index that the search found
  · funext s
    show (match nodeCacheFindBySock s.core.nodeCache fd with
      | none => pure flag
      | some (i, _) => nodeRxReceiveAt env fd i flag : FwM cfg Bool).run s =
        (match nodeCacheFindBySock s.core.nodeCache fd with
          | none => pure flag
          | some (_, e) => nodeRxReceive env fd e flag : FwM cfg Bool).run s
    cases hfind : nodeCacheFindBySock s.core.nodeCache fd with
    | none => rfl
    | some x =>
        obtain ⟨i, e⟩ := x
        obtain ⟨hi, rfl, -⟩ := PackedArray.findEntry_eq_some_iff.mp hfind
        exact nodeRxReceiveAt_run env fd flag (List.getElem?_eq_getElem hi)
  · rfl

section serve

variable {env} {fd : ℤ} {r : Revents} {flag : Bool}

/-- A socket that is broken is reported, whatever is wrong with it. -/
lemma nodeRxServe_bad (h : r.Bad) :
    nodeRxServe env fd r flag =
      (do svcSendModuleRemovedBySock env fd; return flag : FwM cfg Bool) := by
  rw [nodeRxServe_eq]
  by_cases hnval : r.nval = true
  · rw [if_pos hnval]
  by_cases hhup : r.hup = true
  · rw [if_neg hnval, if_pos hhup]
  · have herr : r.err = true := (h.resolve_left hnval).resolve_left hhup
    rw [if_neg hnval, if_neg hhup, if_pos herr]

/-- One that is not is read, if there is something to read. -/
lemma nodeRxServe_good (h : ¬ r.Bad) :
    nodeRxServe env fd r flag = (if r.pollin = true then do
      let c ← getCore
      match nodeCacheFindBySock c.nodeCache fd with
      | none => return flag
      | some (_, e) => nodeRxReceive env fd e flag
    else return flag : FwM cfg Bool) := by
  rw [Revents.Bad, not_or, not_or] at h
  calc nodeRxServe env fd r flag
      = _ := nodeRxServe_eq env fd r flag
    _ = _ := if_neg h.1
    _ = _ := if_neg h.2.1
    _ = _ := if_neg h.2.2

/-- A broken socket is served by a report. -/
lemma ends_nodeRxServe_bad (h : r.Bad) {flag' : Bool} {s s' : Fw cfg} :
    Ends (nodeRxServe env fd r flag) s flag' s' ↔
      flag' = flag ∧ Ends (svcSendModuleRemovedBySock env fd) s () s' := by
  rw [nodeRxServe_bad h, ends_bind]
  constructor
  · rintro ⟨_, s₁, hreport, hret⟩
    obtain ⟨rfl, rfl⟩ := ends_pure.mp hret
    exact ⟨rfl, hreport⟩
  · rintro ⟨rfl, hreport⟩
    exact ⟨(), s', hreport, Ends.pure _ s'⟩

/-- Another one is served by a read, if it is a cached node's and readable. -/
lemma ends_nodeRxServe_good (h : ¬ r.Bad) {flag' : Bool} {s s' : Fw cfg} :
    Ends (nodeRxServe env fd r flag) s flag' s' ↔
      (r.pollin = true → nodeCacheFindBySock s.core.nodeCache fd = none) ∧ flag = flag' ∧ s = s' ∨
        r.pollin = true ∧ ∃ i e, nodeCacheFindBySock s.core.nodeCache fd = some (i, e) ∧
          Ends (nodeRxReceive env fd e flag) s flag' s' := by
  rw [nodeRxServe_good h, ends_ite, (Ends.getCore s).bind_iff]
  cases nodeCacheFindBySock s.core.nodeCache fd with
  | none => by_cases hin : r.pollin = true <;> simp [hin]
  | some x =>
      obtain ⟨i, e⟩ := x
      by_cases hin : r.pollin = true <;> simp [hin]

end serve

/-! ### The loop -/

/-- The thread: the firmware around it, its `flag`, and the sockets of the
iteration it has yet to serve. -/
structure RxLoop (cfg : Config) where
  fw : Fw cfg
  flag : Bool
  fds : List (ℤ × Revents)

/-- A step of the loop, or something other threads do between two of them. -/
inductive RxOp
  /-- `fds` are populated and polled; `none` if `zsock_poll` fails -/
  | poll (revents : Option (List Revents))
  | serve
  | other

/-- Every cached node has an id `new_interface_id` may give. -/
def IdsIssued (c : Core cfg) : Prop := ∀ e ∈ c.nodeCache, INTERFACE_ID_START ≤ e.id.toNat

instance (c : Core cfg) : Decidable (IdsIssued c) :=
  inferInstanceAs (Decidable (∀ e ∈ c.nodeCache, _))

/-- A node's id is that of no other kind of interface. -/
lemma IdsIssued.ne {c : Core cfg} (h : IdsIssued c) {e : NodeItem} (he : e ∈ c.nodeCache) :
    e.id ≠ SVC_INF_ID ∧ e.id ≠ AP_INF_ID := by
  have hle := h e he
  constructor
  · intro heq
    rw [heq] at hle
    exact absurd hle (by decide)
  · intro heq
    rw [heq] at hle
    exact absurd hle (by decide)

/-- One step. The other threads may do anything but write the variables of this
one, and give nodes no other ids. -/
def rxStep (s : RxLoop cfg) (op : RxOp) (s' : RxLoop cfg) : Prop :=
  match op with
  | .poll none => s.fds = [] ∧ s' = s
  | .poll (some revents) =>
    s.fds = [] ∧ revents.length = s.fw.core.nodeCache.length ∧
      s' = { s with fds := (s.fw.core.nodeCache.map NodeItem.sock).zip revents }
  | .serve =>
    ∃ fd r, s.fds = (fd, r) :: s'.fds ∧ Ends (nodeRxServe env fd r s.flag) s.fw s'.flag s'.fw
  | .other => IdsIssued s'.fw.core ∧ s'.flag = s.flag ∧ s'.fds = s.fds

end Cc1352Greybus
