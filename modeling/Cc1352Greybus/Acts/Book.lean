import Cc1352Greybus.Acts.Blocks

/-!
The book an AP keeps of its connections, by its own frames and the answers it hears to them.

* `ApBook.frame`, `apBook`: what it notes, for one frame and over a run.
* `Note.Holds`, `ApBook.Right`: what is noted of a cport is what its slot of the table holds.
* `ApBook.Right.ask`: a request that does what its status says leaves the book right.
* `ApBook.Right.frame_svc`, `ApBook.Right.frame_other`: so a frame does, as a message to the SVC
  and as any other.
* `ApBook.Sure`: a book without doubt stays so while requests are answered.
-/

namespace Cc1352Greybus

open Effects PackedArray

variable {cfg : Config} {env : Env}

/-! ### The AP's book -/

/-- What an AP has noted for one of its cports. -/
inductive Note
  /-- it is not connected -/
  | free
  /-- it is connected to a cport of the interface with this id -/
  | connected (nodeId : U8) (nodeCport : U16)
  /-- nobody has answered what it has asked for -/
  | unsure
  deriving DecidableEq

/-- The notes of an AP, by its cports. -/
abbrev ApBook := ℕ → Note

/-- The connection that the payload of a frame names. -/
def RxFrame.asked (f : RxFrame) : ConnRequest :=
  connRequest ⟨0, frameHdr f.buffer, f.buffer.drop 10⟩

/-- What a request of a type has an AP note for the connection it names, if it is about one. -/
def askedNote (type : U8) (e : Endpoint) : Option Note :=
  if type = GB_SVC_TYPE_CONN_CREATE then some (.connected e.nodeId e.nodeCport)
  else if type = GB_SVC_TYPE_CONN_DESTROY then some .free
  else none

/-- A message that is about no connection. -/
def AsksNothing (f : RxFrame) : Prop := ∀ e, askedNote (frameHdr f.buffer).type e = none

/-- The status in a block, if it is the response to a request. -/
def statusIn (req : GbOperationMsgHdr) (b : Block) : Option U8 :=
  let resp := GbOperationMsgHdr.ofBytes (b.payload.drop 2)
  if b.address = ADDRESS_GREYBUS ∧ resp.type = GB_OP_RESPONSE ||| req.type ∧
    resp.operationId = req.operationId then some resp.result else none

/-- The status a request is answered with. -/
def heardStatus (req : GbOperationMsgHdr) (heard : List Block) : Option U8 :=
  heard.findSome? (statusIn req)

/-- A message to the SVC: the note is made if it is answered with success, and there is doubt if
it is not answered. -/
def ApBook.ask (book : ApBook) (f : RxFrame) (heard : List Block) : ApBook :=
  match f.asked.endpoint with
  | none => book
  | some e =>
    match askedNote (frameHdr f.buffer).type e with
    | none => book
    | some note =>
      match heardStatus (frameHdr f.buffer) heard with
      | none => Function.update book e.apCport.toNat .unsure
      | some status =>
        if status = GB_SVC_OP_SUCCESS then Function.update book e.apCport.toNat note else book

/-- A command: with the start the SVC gets AP cport 0, if that is free, and with the stop all
connections go. -/
def ApBook.command (book : ApBook) (command : U8) : ApBook :=
  if command = CONTROL_SVC_START then
    if book 0 = .free then Function.update book 0 (.connected SVC_INF_ID 0) else book
  else if command = CONTROL_SVC_STOP then fun _ => .free
  else book

/-- What an AP notes for a frame and what it hears in return. A message on a cport that is in
doubt may be one to the SVC. -/
def ApBook.frame (book : ApBook) (f : RxFrame) (heard : List Block) : ApBook :=
  if f.address = ADDRESS_GREYBUS then
    match book (frameCport f.buffer).toNat with
    | .free => book
    | .connected id cport => if id = SVC_INF_ID ∧ cport = 0 then book.ask f heard else book
    | .unsure => book.ask f []
  else if f.address = ADDRESS_CONTROL ∧ f.len = 1 then
    f.buffer[0]?.elim book book.command
  else book

/-- What it notes for one step. -/
def ApBook.step (book : ApBook) (t : RunStep (Fw cfg) SystemOp) : ApBook :=
  match t.label with
  | .frame f => book.frame f (hdlcBlocks (newEvents t.pre t.post))
  | _ => book

/-- The book after a run. -/
def apBook (l : List (RunStep (Fw cfg) SystemOp)) : ApBook := l.foldl ApBook.step fun _ => .free

/-! ### A book that is right -/

/-- An interface that an id stands for, if it is not one of a node. -/
def IntfPtr.GoesBy : IntfPtr → U8 → Prop
  | .svc, id => id = SVC_INF_ID
  | .localNode, id => id = LOCAL_NODE_ID
  | .node _, id => id ≠ SVC_INF_ID ∧ id ≠ LOCAL_NODE_ID

/-- What is noted of a cport is what its slot holds. It has the id that is noted if the nodes have
held theirs. -/
def Note.Holds (held : Prop) : Note → NodeApItem → Prop
  | .free, slot => slot = .empty
  | .connected id cport, slot => ∃ intf id', slot = ⟨some intf, cport, id'⟩ ∧ intf.GoesBy id ∧
      (held → id' = id)
  | .unsure, _ => True

/-- The book is right about every slot. -/
def ApBook.Right (book : ApBook) (held : Prop) (c : Core cfg) : Prop :=
  ∀ k : Fin cfg.apMaxNodes, (book k).Holds held (c.nodeApMap k)

/-- A slot has become what is noted, and the others are as they were. -/
def Noted (held : Prop) (note : Note) (apCport : U16) (c c' : Core cfg) : Prop :=
  ∀ k : Fin cfg.apMaxNodes,
    if k.val = apCport.toNat then note.Holds held (c'.nodeApMap k)
    else c'.nodeApMap k = c.nodeApMap k

/-- What a request does to the slots: what it asks for, or nothing. -/
def Done (held : Prop) (f : RxFrame) (status : U8) (c c' : Core cfg) : Prop :=
  if status = GB_SVC_OP_SUCCESS then
    ∃ e note, f.asked.endpoint = some e ∧ askedNote (frameHdr f.buffer).type e = some note ∧
      Noted held note e.apCport c c'
  else c'.nodeApMap = c.nodeApMap

/-- The interfaces of the cached nodes have the nodes' ids. -/
def IdsHeld (c : Core cfg) : Prop := ∀ e ∈ c.nodeCache, (c.intfMem e.inf).id = e.id

instance (c : Core cfg) : Decidable (IdsHeld c) :=
  inferInstanceAs (Decidable (∀ e ∈ c.nodeCache, _))

/-! ### Answers -/

lemma heardStatus_singleton (req : GbOperationMsgHdr) (b : Block) :
    heardStatus req [b] = statusIn req b := by
  rw [heardStatus, List.findSome?_cons]
  cases statusIn req b <;> rfl

/-- A block tells the header of its message. -/
lemma statusIn_greybusBlock {req : GbOperationMsgHdr} {k : U16} {resp : GbMessage}
    (htype : resp.header.type = GB_OP_RESPONSE ||| req.type)
    (hid : resp.header.operationId = req.operationId) :
    statusIn req (greybusBlock k resp) = some resp.header.result := by
  have hhdr : GbOperationMsgHdr.ofBytes ((greybusBlock k resp).payload.drop 2) = resp.header := by
    rw [greybusBlock, greybusFrame, List.append_assoc, List.drop_left' (le16_length k),
      GbOperationMsgHdr.ofBytes_bytes_append]
  rw [statusIn, hhdr]
  exact if_pos ⟨rfl, htype, hid⟩

/-- A response is told by the type and the id of its request. -/
lemma heardStatus_congr {req req' : GbOperationMsgHdr} (htype : req.type = req'.type)
    (hid : req.operationId = req'.operationId) : heardStatus req = heardStatus req' := by
  have hstatus : statusIn req = statusIn req' := by
    funext b
    simp only [statusIn, htype, hid]
  funext heard
  rw [heardStatus, heardStatus, hstatus]

/-! ### Keeping it right -/

/-- The slot of an AP cport is a slot. -/
lemma Core.exists_of_slot? {c : Core cfg} {apCport : U16} {slot : NodeApItem}
    (h : c.slot? apCport = some slot) :
    ∃ k : Fin cfg.apMaxNodes, k.val = apCport.toNat ∧ c.nodeApMap k = slot := by
  rw [Core.slot?] at h
  split_ifs at h with hlt
  exact ⟨⟨apCport.toNat, hlt⟩, rfl, Option.some.inj h⟩

namespace ApBook

variable {held : Prop} {book : ApBook} {c c' : Core cfg} {f : RxFrame} {heard : List Block}

lemma right_boot (cfg : Config) : ApBook.Right (fun _ => .free) held (Core.boot cfg) :=
  fun _ => rfl

lemma Right.of_sameMap (h : book.Right held c) (hmap : c'.nodeApMap = c.nodeApMap) :
    book.Right held c' := by
  rw [Right, hmap]
  exact h

/-- If the nodes hold their ids for longer, they have held them. -/
lemma Right.mono {held' : Prop} (h : book.Right held c) (hheld : held' → held) :
    book.Right held' c := by
  intro k
  have hk := h k
  cases hnote : book k with
  | free => rwa [hnote] at hk
  | connected id cport =>
      rw [hnote] at hk
      obtain ⟨intf, id', hitem, hgoes, hid⟩ := hk
      exact ⟨intf, id', hitem, hgoes, hid ∘ hheld⟩
  | unsure => trivial

/-- One slot and its note change. -/
lemma Right.update {note : Note} {apCport : U16} (h : book.Right held c)
    (hnoted : Noted held note apCport c c') :
    ApBook.Right (Function.update book apCport.toNat note) held c' := by
  intro k
  have hk := hnoted k
  split_ifs at hk with heq
  · rw [heq, Function.update_self]
    exact hk
  · rw [Function.update_of_ne heq, hk]
    exact h k

/-- Doubt is always right. -/
lemma Right.doubt {apCport : U16} (h : book.Right held c)
    (hothers : ∀ k : Fin cfg.apMaxNodes, k.val ≠ apCport.toNat →
      c'.nodeApMap k = c.nodeApMap k) :
    ApBook.Right (Function.update book apCport.toNat .unsure) held c' := by
  refine h.update fun k => ?_
  split_ifs with heq
  · trivial
  · exact hothers k heq

/-- A message the SVC does not get leaves the book right if it is not answered. -/
lemma Right.ask_unheard (h : book.Right held c) (hmap : c'.nodeApMap = c.nodeApMap) :
    (book.ask f []).Right held c' := by
  rw [ask]
  cases f.asked.endpoint with
  | none => exact h.of_sameMap hmap
  | some e =>
      dsimp only
      cases askedNote (frameHdr f.buffer).type e with
      | none => exact h.of_sameMap hmap
      | some note => exact h.doubt fun k _ => congrFun hmap k

/-- **A request** that does what its status says leaves the book right, answered or not. -/
lemma Right.ask {status : U8} (h : book.Right held c) (hdone : Done held f status c c')
    (hheard : heardStatus (frameHdr f.buffer) heard = none ∨
      heardStatus (frameHdr f.buffer) heard = some status) : (book.ask f heard).Right held c' := by
  rw [Done] at hdone
  rw [ApBook.ask]
  split_ifs at hdone with hstatus
  -- carried out: the AP notes it if it hears the status, and doubts it if not
  · obtain ⟨e, note, he, hnote, hnoted⟩ := hdone
    rw [he]
    dsimp only
    rw [hnote]
    rcases hheard with hheard | hheard
    · rw [hheard]
      refine h.doubt fun k hk => ?_
      have hkept := hnoted k
      rwa [if_neg hk] at hkept
    · rw [hheard]
      dsimp only
      rw [if_pos hstatus]
      exact h.update hnoted
  -- not carried out: the slots are as they were
  · have hsame := h.of_sameMap hdone
    cases f.asked.endpoint with
    | none => exact hsame
    | some e =>
        dsimp only
        cases askedNote (frameHdr f.buffer).type e with
        | none => exact hsame
        | some note =>
            rcases hheard with hheard | hheard
            · rw [hheard]
              exact h.doubt fun k _ => congrFun hdone k
            · rw [hheard]
              dsimp only
              rw [if_neg hstatus]
              exact hsame

lemma ask_nothing (h : AsksNothing f) (heard : List Block) : book.ask f heard = book := by
  rw [ask]
  cases f.asked.endpoint with
  | none => rfl
  | some e =>
      dsimp only
      rw [h e]

/-- A message that is not one to the SVC leaves the slots alone, and the book as it is. -/
lemma Right.frame_other {slot : NodeApItem} {intf : IntfPtr} (hbook : book.Right held c)
    (haddress : f.address = ADDRESS_GREYBUS)
    (hslot : c.slot? (frameCport f.buffer) = some slot) (hintf : slot.nodeIntf = some intf)
    (hother : ¬ (intf = .svc ∧ slot.nodeCport = 0)) (hmap : c'.nodeApMap = c.nodeApMap) :
    (book.frame f heard).Right held c' := by
  obtain ⟨k, hk, rfl⟩ := Core.exists_of_slot? hslot
  have hholds := hbook k
  rw [ApBook.frame, if_pos haddress, ← hk]
  cases hnote : book k with
  | free => exact hbook.of_sameMap hmap
  | connected id cport =>
      rw [hnote] at hholds
      obtain ⟨intf', id', hitem, hgoes, -⟩ := hholds
      rw [hitem] at hintf hother
      obtain rfl := Option.some.inj hintf
      have hno : ¬ (id = SVC_INF_ID ∧ cport = 0) := by
        rintro ⟨rfl, rfl⟩
        cases intf' with
        | svc => exact hother ⟨rfl, rfl⟩
        | localNode => cases hgoes
        | node p => exact hgoes.1 rfl
      dsimp only
      rw [if_neg hno]
      exact hbook.of_sameMap hmap
  | unsure => exact hbook.ask_unheard hmap

/-- A message to the SVC does what the AP notes. -/
lemma Right.frame_svc {slot : NodeApItem} (hbook : book.Right held c)
    (haddress : f.address = ADDRESS_GREYBUS)
    (hslot : c.slot? (frameCport f.buffer) = some slot) (hintf : slot.nodeIntf = some .svc)
    (hcport : slot.nodeCport = 0)
    (hdoes : (∃ status, Done held f status c c' ∧
        (heardStatus (frameHdr f.buffer) heard = none ∨
          heardStatus (frameHdr f.buffer) heard = some status)) ∨
      AsksNothing f ∧ c'.nodeApMap = c.nodeApMap) :
    (book.frame f heard).Right held c' := by
  obtain ⟨k, hk, rfl⟩ := Core.exists_of_slot? hslot
  have hholds := hbook k
  rw [ApBook.frame, if_pos haddress, ← hk]
  cases hnote : book k with
  -- a slot in the book as free is empty, and this one is not
  | free =>
      rw [hnote] at hholds
      have hempty : c.nodeApMap k = .empty := hholds
      rw [hempty] at hintf
      cases hintf
  | connected id cport =>
      rw [hnote] at hholds
      obtain ⟨intf', id', hitem, hgoes, -⟩ := hholds
      rw [hitem] at hintf hcport
      obtain rfl := Option.some.inj hintf
      dsimp only
      -- the AP knows that its frame is for the SVC
      rw [if_pos ⟨hgoes, hcport⟩]
      rcases hdoes with ⟨status, hdone, hheard⟩ | ⟨hnothing, hmap⟩
      · exact hbook.ask hdone hheard
      · rw [ApBook.ask_nothing hnothing]
        exact hbook.of_sameMap hmap
  | unsure =>
      rcases hdoes with ⟨status, hdone, -⟩ | ⟨-, hmap⟩
      · exact hbook.ask hdone (Or.inl rfl)
      · exact hbook.ask_unheard hmap

/-- A frame that is not taken leaves the slots alone, and nothing is heard. -/
lemma Right.frame_refused (hbook : book.Right held c) (haddress : f.address = ADDRESS_GREYBUS)
    (hmap : c'.nodeApMap = c.nodeApMap) : (book.frame f []).Right held c' := by
  rw [ApBook.frame, if_pos haddress]
  cases book (frameCport f.buffer).toNat with
  | free => exact hbook.of_sameMap hmap
  | connected id cport =>
      dsimp only
      split_ifs
      · exact hbook.ask_unheard hmap
      · exact hbook.of_sameMap hmap
  | unsure => exact hbook.ask_unheard hmap

/-- The book and the slot that a node's message is sent by agree on the sender. -/
lemma Right.sender (h : book.Right True c) (hissued : IdsIssued c) {e : NodeItem}
    (he : e ∈ c.nodeCache) {cport : U16} {k : Fin cfg.apMaxNodes}
    (hslot : nodeToApCport c.nodeApMap e.id cport = some k) :
    book k = .connected e.id cport ∨ book k = .unsure := by
  obtain ⟨⟨hid, hcport⟩, -⟩ := nodeToApCport_eq_some_iff.mp hslot
  have hholds := h k
  cases hnote : book k with
  | free =>
      rw [hnote] at hholds
      have hempty : c.nodeApMap k = .empty := hholds
      have hle := hissued e he
      rw [← hid, hempty] at hle
      exact absurd hle (by decide)
  | connected id cport' =>
      rw [hnote] at hholds
      obtain ⟨intf, id', hitem, -, hid'⟩ := hholds
      rw [hitem] at hid hcport
      exact Or.inl (by rw [← hid, ← hcport, hid' trivial])
  | unsure => exact Or.inr rfl

end ApBook

/-! ### A book without doubt -/

/-- There is no doubt about any cport. -/
def ApBook.Sure (book : ApBook) : Prop := ∀ k, book k ≠ .unsure

namespace ApBook.Sure

variable {book : ApBook} {f : RxFrame} {heard : List Block}

lemma update (h : book.Sure) (k : ℕ) {note : Note} (hnote : note ≠ .unsure) :
    Sure (Function.update book k note) := by
  intro j
  rw [Function.update_apply]
  split_ifs
  · exact hnote
  · exact h j

lemma ask (h : book.Sure)
    (hheard : ¬ AsksNothing f → heardStatus (frameHdr f.buffer) heard ≠ none) :
    (book.ask f heard).Sure := by
  rw [ApBook.ask]
  cases f.asked.endpoint with
  | none => exact h
  | some e =>
      dsimp only
      cases hnote : askedNote (frameHdr f.buffer).type e with
      | none => exact h
      | some note =>
          have hasks : ¬ AsksNothing f := fun hnothing => by
            rw [hnothing e] at hnote
            cases hnote
          dsimp only
          cases hstatus : heardStatus (frameHdr f.buffer) heard with
          | none => exact absurd hstatus (hheard hasks)
          | some status =>
              dsimp only
              split_ifs
              · refine h.update _ ?_
                rw [askedNote] at hnote
                split_ifs at hnote
                all_goals
                  obtain rfl := Option.some.inj hnote
                  exact nofun
              · exact h

lemma frame (h : book.Sure)
    (hheard : f.address = ADDRESS_GREYBUS →
      book (frameCport f.buffer).toNat = .connected SVC_INF_ID 0 → ¬ AsksNothing f →
        heardStatus (frameHdr f.buffer) heard ≠ none) : (book.frame f heard).Sure := by
  rw [ApBook.frame]
  split_ifs with haddress hcontrol
  · cases hnote : book (frameCport f.buffer).toNat with
    | free => exact h
    | connected id cport =>
        dsimp only
        split_ifs with hsvc
        · obtain ⟨rfl, rfl⟩ := hsvc
          exact h.ask (hheard haddress hnote)
        · exact h
    | unsure => exact absurd hnote (h _)
  · cases f.buffer[0]? with
    | none => exact h
    | some command =>
        rw [Option.elim_some, ApBook.command]
        split_ifs
        · exact h.update 0 nofun
        · exact h
        · exact fun _ => nofun
        · exact h
  · exact h

end ApBook.Sure

end Cc1352Greybus
