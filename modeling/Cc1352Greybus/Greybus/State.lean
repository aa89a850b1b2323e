import Cc1352Greybus.Greybus.Socket
import Cc1352Greybus.Lib.PackedArray

/-!
The static data of the firmware: the routing table, the node cache, the two
slabs and what lies in them.

* `Core` holds the tables, `Fw` the tables and the devices.
* `FwM` programs run over both; `liftIo` runs one that only uses the devices,
  `modifyCore` one that only uses the tables.
* `SameCore`, `SameIo`: what those leave alone.
-/

namespace Cc1352Greybus

open Effects

/-! ### Error numbers -/

/-- Too many: a cport or a payload beyond what there is room for. -/
def E2BIG : ℤ := 7

/-- No memory. -/
def ENOMEM : ℤ := 12

/-- Not valid. -/
def EINVAL : ℤ := 22

/-- There already. -/
def EALREADY : ℤ := 120

/-! ### Interface ids -/

/-- The interface id of the SVC. -/
def SVC_INF_ID : U8 := 0

/-- The interface id of the AP. -/
def AP_INF_ID : U8 := 1

/-- The interface id of the local node. -/
def LOCAL_NODE_ID : U8 := 2

/-- The first interface id of a node. -/
def INTERFACE_ID_START : ℕ := 3

/-! ### Data -/

/-- `struct gb_interface` of a node, less the callbacks, which are the same for
every node. -/
structure GbInterface where
  id : U8
  ctrlData : Ptr
  deriving DecidableEq

/-- A pointer to a `struct gb_interface`: the static one of `svc.c`, the static
one of `local_node.c`, or a node's. Its callbacks are those of that file. -/
inductive IntfPtr
  | svc
  | localNode
  | node (p : Ptr)
  deriving DecidableEq

/-- `struct node_item`, less `fail_count`, which nothing reads. -/
structure NodeItem where
  sock : ℤ
  id : U8
  addr : BitVec 128
  inf : Ptr
  deriving DecidableEq

/-- `struct node_ap_item` -/
structure NodeApItem where
  nodeIntf : Option IntfPtr
  nodeCport : U16
  nodeId : U8
  deriving DecidableEq

/-- An entry that is not connected. -/
def NodeApItem.empty : NodeApItem := ⟨none, 0, 0⟩

/-- `struct k_mem_slab` -/
structure Slab where
  freeList : List Ptr
  numUsed : BitVec 32
  deriving DecidableEq

/-- The tables. -/
structure Core (cfg : Config) where
  /-- `node_ap_map` -/
  nodeApMap : Fin cfg.apMaxNodes → NodeApItem
  /-- `node_cache`, up to `node_cache_pos` -/
  nodeCache : List NodeItem
  /-- `node_control_data_slab` -/
  ctrlSlab : Slab
  /-- `gb_interface_slab` -/
  intfSlab : Slab
  /-- the `sock` of the `struct node_control_data` at an address -/
  ctrlMem : Ptr → ℤ
  /-- the `struct gb_interface` at an address -/
  intfMem : Ptr → GbInterface
  /-- `interface_id_counter` -/
  interfaceIdCounter : ℕ
  /-- `svc_is_read_flag` -/
  svcReady : Bool

/-- The whole state. -/
structure Fw (cfg : Config) where
  core : Core cfg
  io : Io

/-- A slab with all of its blocks free, in the order of their addresses. -/
def Slab.ofSize (n : ℕ) : Slab := ⟨(List.range n).map .block, 0⟩

lemma Slab.nodup_ofSize (n : ℕ) : (Slab.ofSize n).freeList.Nodup :=
  (List.nodup_map_iff fun _ _ h => by injection h).mpr List.nodup_range

@[simp] lemma Slab.length_ofSize (n : ℕ) : (Slab.ofSize n).freeList.length = n := by simp [ofSize]

/-- The tables as the loader leaves them. -/
def Core.boot (cfg : Config) : Core cfg where
  nodeApMap _ := .empty
  nodeCache := []
  ctrlSlab := .ofSize cfg.maxGreybusNodes
  intfSlab := .ofSize cfg.maxGreybusInterfaces
  ctrlMem _ := 0
  intfMem _ := ⟨0, .block 0⟩
  interfaceIdCounter := INTERFACE_ID_START
  svcReady := false

/-- The devices as the loader leaves them, with nothing to deliver. -/
def Io.boot : Io := ⟨[], 0, 1, 0, 0, fun _ => [], 0⟩

/-- The firmware as the loader leaves it. -/
def Fw.boot (cfg : Config) : Fw cfg := ⟨.boot cfg, .boot⟩

/-! ### Programs -/

variable {cfg : Config} {α β : Type}

/-- Programs over the whole state. -/
abbrev FwM (cfg : Config) := EStateM Fault (Fw cfg)

/-- A program that only uses the devices. -/
def liftIo (m : IoM α) : FwM cfg α := zoom Fw.io (fun io s => { s with io := io }) m

/-- The tables. -/
def getCore : FwM cfg (Core cfg) := Fw.core <$> get

/-- A change of the tables. -/
def modifyCore (f : Core cfg → Core cfg) : FwM cfg Unit :=
  modify fun s => { s with core := f s.core }

/-- A change of the tables with a result. -/
def modifyGetCore (f : Core cfg → α × Core cfg) : FwM cfg α := modifyGet fun s =>
  ((f s.core).1, { s with core := (f s.core).2 })

@[simp] lemma ends_liftIo {m : IoM α} {a : α} {s s' : Fw cfg} :
    Ends (liftIo m) s a s' ↔ ∃ io, Ends m s.io a io ∧ s' = ⟨s.core, io⟩ := by
  rw [liftIo, ends_zoom]
  exact exists_congr fun io => and_congr_right fun _ => eq_comm

@[simp] lemma ends_getCore {c : Core cfg} {s s' : Fw cfg} :
    Ends getCore s c s' ↔ s.core = c ∧ s = s' := by
  have hrun : (getCore : FwM cfg (Core cfg)).run s = .ok s.core s := rfl
  simp [Ends, hrun]

@[simp] lemma ends_modifyCore {f : Core cfg → Core cfg} {u : Unit} {s s' : Fw cfg} :
    Ends (modifyCore f) s u s' ↔ s' = ⟨f s.core, s.io⟩ := by
  rw [modifyCore, ends_modify, eq_comm]

@[simp] lemma ends_modifyGetCore {f : Core cfg → α × Core cfg} {a : α} {s s' : Fw cfg} :
    Ends (modifyGetCore f) s a s' ↔ (f s.core).1 = a ∧ s' = ⟨(f s.core).2, s.io⟩ := by
  rw [modifyGetCore, ends_modifyGet]
  exact and_congr_right fun _ => eq_comm

lemma Ends.liftIo {m : IoM α} {a : α} {c : Core cfg} {io io' : Io} (h : Ends m io a io') :
    Ends (liftIo m) (⟨c, io⟩ : Fw cfg) a ⟨c, io'⟩ :=
  ends_liftIo.mpr ⟨io', h, rfl⟩

/-- It stops where the program over the devices does. -/
@[simp] lemma stops_liftIo {m : IoM α} {s : Fw cfg} {e : Fault} :
    Stops (liftIo m) s e ↔ Stops m s.io e := by
  rw [Stops, Stops, EStateM.run, liftIo, zoom]
  cases h : m.run s.io with
  | ok a io => simp
  | error e' io => simp

/-- It returns where the program over the devices does. -/
@[simp] lemma returns_liftIo {m : IoM α} {s : Fw cfg} :
    Returns (liftIo m) s ↔ Returns m s.io := by
  constructor
  · rintro ⟨a, s', h⟩
    obtain ⟨io, hm, -⟩ := ends_liftIo.mp h
    exact hm.returns
  · rintro ⟨a, io, h⟩
    exact (ends_liftIo.mpr ⟨io, h, rfl⟩ : Ends (liftIo m) s a _).returns

lemma Avoids.liftIo {m : IoM α} {e : Fault} (h : Avoids e m) :
    Avoids e (liftIo m : FwM cfg α) :=
  fun s hs => h s.io (stops_liftIo.mp hs)

@[simp] lemma liftIo_pure (a : α) : (liftIo (pure a) : FwM cfg α) = pure a := rfl

@[simp] lemma liftIo_throw (e : Fault) : (liftIo (throw e : IoM α) : FwM cfg α) = throw e := rfl

/-- A sequence over the devices is a sequence of programs over them. -/
lemma liftIo_bind (m : IoM α) (f : α → IoM β) :
    (liftIo (m >>= f) : FwM cfg β) = liftIo m >>= fun a => liftIo (f a) := by
  funext s
  simp only [liftIo, zoom, bind, EStateM.bind, EStateM.run]
  cases m s.io with
  | ok a io => rfl
  | error e io => rfl

lemma Ends.getCore (s : Fw cfg) : Ends getCore s s.core s := ends_getCore.mpr ⟨rfl, rfl⟩

lemma Ends.modifyCore (f : Core cfg → Core cfg) (s : Fw cfg) :
    Ends (modifyCore f) s () ⟨f s.core, s.io⟩ :=
  ends_modifyCore.mpr rfl

/-! ### What is left alone -/

/-- The tables are as before. -/
def SameCore (s s' : Fw cfg) : Prop := s'.core = s.core

instance : Std.Refl (@SameCore cfg) := ⟨fun _ => rfl⟩

instance : IsTrans (Fw cfg) SameCore := ⟨fun _ _ _ h h' => h'.trans h⟩

/-- A program over the devices leaves the tables alone. -/
lemma respects_liftIo (m : IoM α) : Respects SameCore (liftIo m : FwM cfg α) := by
  intro s a s' h
  obtain ⟨io, -, rfl⟩ := ends_liftIo.mp h
  rfl

lemma respects_getCore : Respects SameCore (getCore : FwM cfg (Core cfg)) := by
  intro s c s' h
  obtain ⟨-, rfl⟩ := ends_getCore.mp h
  rfl

/-! ### Slabs

The free list of a slab runs through the first words of the free blocks. The list
here stands for it as long as no block is freed twice and none is a variable of a call
that has returned: after that the links lead elsewhere. -/

variable (env : Env)

/-- `k_mem_slab_alloc` -/
def kMemSlabAlloc (slab : Slab) : Option (Ptr × Slab) :=
  match slab.freeList with
  | [] => none
  | p :: rest => some (p, ⟨rest, slab.numUsed + 1⟩)

/-- `k_mem_slab_free`, of the address that is pushed -/
def kMemSlabFree (slab : Slab) (p : Ptr) : Slab := ⟨p :: slab.freeList, slab.numUsed - 1⟩

/-- The word a free block starts with: the address of the next. -/
def Env.link (slab : Slab) : BitVec 32 :=
  match slab.freeList with
  | [] => 0
  | p :: _ => env.addrWord p

namespace Core

/-- `k_mem_slab_free(&node_control_data_slab, (void **)&v)`, where `v` points to
`p`. The link takes the place of `sock`. -/
def freeCtrlData (c : Core cfg) (v : StackVar) (p : Ptr) : Core cfg :=
  let m := env.slabFreeApi.pushed v p
  { c with
    ctrlSlab := kMemSlabFree c.ctrlSlab m
    ctrlMem := Function.update c.ctrlMem m (env.link c.ctrlSlab).toInt }

/-- `gb_interface_dealloc`. The link takes the place of `id` and the padding
behind it. -/
def gbInterfaceDealloc (c : Core cfg) (inf : Ptr) : Core cfg :=
  let m := env.slabFreeApi.pushed .deallocIntf inf
  { c with
    intfSlab := kMemSlabFree c.intfSlab m
    intfMem := Function.update c.intfMem m
      { c.intfMem m with id := (env.link c.intfSlab).setWidth 8 } }

/-- `new_interface_id` -/
def newInterfaceId (c : Core cfg) : U8 × Core cfg :=
  let temp := c.interfaceIdCounter
  (BitVec.ofNat 8 temp,
    { c with interfaceIdCounter := if temp = 0xff then INTERFACE_ID_START else temp + 1 })

/-- `gb_interface_alloc` -/
def gbInterfaceAlloc (c : Core cfg) (ctrlData : Ptr) : Option Ptr × Core cfg :=
  match kMemSlabAlloc c.intfSlab with
  | none => (none, c)
  | some (intf, slab) =>
    let r := newInterfaceId { c with intfSlab := slab }
    (some intf, { r.2 with intfMem := Function.update r.2.intfMem intf ⟨r.1, ctrlData⟩ })

end Core

end Cc1352Greybus
