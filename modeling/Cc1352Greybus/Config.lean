import Mathlib.Tactic

/-!
The build configuration and the machine types shared by every module.
-/

namespace Cc1352Greybus

/-- `uint8_t`. -/
abbrev U8 := BitVec 8

/-- `uint16_t`; the target is little endian, so `sys_le16_to_cpu` and
`sys_cpu_to_le16` change nothing. -/
abbrev U16 := BitVec 16

/-- The Kconfig symbols the code is sized by. A block holds at least an address,
a control byte and two FCS bytes, and its length fits the `uint16_t` that counts
it; an AP cport is a `uint16_t`. -/
structure Config where
  /-- `CONFIG_BEAGLEPLAY_HDLC_MAX_BLOCK_SIZE` -/
  hdlcMaxBlockSize : ℕ
  /-- `CONFIG_BEAGLEPLAY_GREYBUS_MAX_NODES`, which is `AP_MAX_NODES` too -/
  maxGreybusNodes : ℕ
  /-- `CONFIG_BEAGLEPLAY_GREYBUS_MAX_INTERFACES` -/
  maxGreybusInterfaces : ℕ
  four_le_block : 4 ≤ hdlcMaxBlockSize
  block_lt : hdlcMaxBlockSize < 2 ^ 16
  nodes_le : maxGreybusNodes ≤ 2 ^ 16

namespace Config

/-- `AP_MAX_NODES` -/
abbrev apMaxNodes (cfg : Config) : ℕ := cfg.maxGreybusNodes

/-- The configuration `prj.conf` builds. -/
def prjConf : Config where
  hdlcMaxBlockSize := 256
  maxGreybusNodes := 32
  maxGreybusInterfaces := 10
  four_le_block := by decide
  block_lt := by decide
  nodes_le := by decide

end Config

/-- A 16-bit field as it lies in memory, low byte first. -/
def le16 (x : U16) : List U8 := [x.setWidth 8, (x >>> 8).setWidth 8]

@[simp] lemma le16_length (x : U16) : (le16 x).length = 2 := rfl

/-- The 16-bit field two bytes make. -/
def ofLe16 (l h : U8) : U16 := h.setWidth 16 <<< 8 ||| l.setWidth 16

/-- A field read back is the field written. -/
@[simp] lemma ofLe16_le16 (x : U16) :
    ofLe16 (x.setWidth 8) ((x >>> 8).setWidth 8) = x := by
  refine BitVec.eq_of_getLsbD_eq fun i hi => ?_
  interval_cases i <;> simp [ofLe16]

/-- So is a field at the start of some bytes. -/
lemma ofLe16_le16_append (x : U16) (rest : List U8) :
    ofLe16 ((le16 x ++ rest).getD 0 0) ((le16 x ++ rest).getD 1 0) = x := by
  simp [le16]

end Cc1352Greybus
