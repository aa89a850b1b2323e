import Cc1352Greybus.Greybus.Io
import Cc1352Greybus.Lib.Memory
import Cc1352Greybus.Lib.Labels

/-!
`src/mdns.c`: names in a DNS message, packed, skipped and extracted.

A message is the memory it lies in and the size the code is told; a program stops
on the first access outside the memory. Offsets lie in a message and its capacity
in an object, which no `size_t` outgrows, and are counted in `ℕ`. A pointer into a
buffer is its offset there, `MDNS_INVALID_POS` is `none`.

* `mdnsGetNextSubstring`: one label, compression pointers followed.
* `mdnsStringSkip`, `mdnsStringExtract`: the two walks over a name.
* `mdnsStringMake`: the packed form of a name, without a string table, which is how
  its only caller calls it.
-/

namespace Cc1352Greybus

/-- `MDNS_MAX_SUBSTRINGS` -/
def MDNS_MAX_SUBSTRINGS : ℕ := 64

/-- The character `'.'`. -/
def DOT : U8 := 0x2E

/-- A byte of a message. -/
def loadByte (buf : List U8) (i : ℕ) : Except Fault U8 := Memory.load .outOfBounds buf i

/-- `mdns_ntohs` -/
def mdnsNtohs (buf : List U8) (i : ℕ) : Except Fault U16 := do
  let h ← loadByte buf i
  let l ← loadByte buf (i + 1)
  pure (ofLe16 l h)

/-- `mdns_is_string_ref` -/
def mdnsIsStringRef (val : U8) : Bool := 0xC0 = val &&& 0xC0

/-! ### One label -/

/-- `struct mdns_string_pair_t` -/
structure MdnsStringPair where
  offset : Option ℕ
  length : ℕ
  ref : Bool
  deriving DecidableEq

/-- What the loop of `mdns_get_next_substring` finds at an offset: no pointer, one that
is given up, or one to another offset. -/
inductive MdnsHop
  | label
  | giveUp
  | target (offset : ℕ)
  deriving DecidableEq

/-- The condition of that loop, and its body but for the count. -/
def mdnsHop (buf : List U8) (size offset : ℕ) : Except Fault MdnsHop := do
  let c ← loadByte buf offset
  if mdnsIsStringRef c then
    if size < offset + 2 then pure .giveUp
    else do
      let target ← mdnsNtohs buf offset
      if size ≤ (target &&& 0x3fff).toNat then pure .giveUp
      else pure (.target (target &&& 0x3fff).toNat)
  else pure .label

/-- The loop, with `hops` more pointers allowed: the offset it stops at, unless it is
given up, and `pair.ref`. -/
def mdnsFollowRefs (buf : List U8) (size : ℕ) : ℕ → ℕ → Bool → Except Fault (Option ℕ × Bool)
  | 0, offset, ref => do
    match ← mdnsHop buf size offset with
    | .label => pure (some offset, ref)
    | .giveUp => pure (none, ref)
    | .target _ => pure (none, true)
  | hops + 1, offset, ref => do
    match ← mdnsHop buf size offset with
    | .label => pure (some offset, ref)
    | .giveUp => pure (none, ref)
    | .target offset => mdnsFollowRefs buf size hops offset true

/-- `mdns_get_next_substring` -/
def mdnsGetNextSubstring (buf : List U8) (size offset : ℕ) : Except Fault MdnsStringPair := do
  if size ≤ offset then pure ⟨none, 0, false⟩
  else do
    let c ← loadByte buf offset
    if c = 0 then pure ⟨some offset, 0, false⟩
    else do
      let r ← mdnsFollowRefs buf size 16 offset false
      match r.1 with
      | none => pure ⟨none, 0, r.2⟩
      | some offset =>
        let length ← loadByte buf offset
        if size < offset + 1 + length.toNat then pure ⟨none, 0, r.2⟩
        else pure ⟨some (offset + 1), length.toNat, r.2⟩

/-! ### Skipping a name -/

/-- What `mdns_string_skip` returns and leaves in `*offset`, and whether it was a
pointer it stopped at. -/
structure MdnsSkipped where
  ret : Bool
  offset : ℕ
  atRef : Bool
  deriving DecidableEq

/-- The loop of `mdns_string_skip`, with `left` more labels allowed: the new offset,
if there is one, and whether a pointer led to it. -/
def mdnsStringSkipLoop (buf : List U8) (size : ℕ) : ℕ → ℕ → Except Fault (Option (ℕ × Bool))
  | 0, cur => do
    let _ ← mdnsGetNextSubstring buf size cur
    pure none
  | left + 1, cur => do
    let substr ← mdnsGetNextSubstring buf size cur
    match substr.offset with
    | none => pure none
    | some pos =>
      if substr.ref then pure (some (cur + 2, true))
      else if substr.length = 0 then pure (some (pos + substr.length + 1, false))
      else mdnsStringSkipLoop buf size left (pos + substr.length)

/-- `mdns_string_skip` -/
def mdnsStringSkip (buf : List U8) (size offset : ℕ) : Except Fault MdnsSkipped := do
  let r ← mdnsStringSkipLoop buf size (MDNS_MAX_SUBSTRINGS + 1) offset
  match r with
  | none => pure ⟨false, offset, false⟩
  | some (cur, atRef) => pure ⟨true, cur, atRef⟩

/-! ### Extracting a name -/

/-- The output of `mdns_string_extract` on the way: the memory at `str`, where `dst`
points in it, and what remains of the capacity. -/
structure MdnsOutput where
  str : List U8
  dst : ℕ
  remain : ℕ
  deriving DecidableEq

/-- The body of the loop of `mdns_string_extract` for a label that is not empty. -/
def mdnsCopyLabel (buf : List U8) (pos length : ℕ) (out : MdnsOutput) : Except Fault MdnsOutput := do
  let toCopy := if length < out.remain then length else out.remain
  let bytes ← Memory.slice .outOfBounds buf pos toCopy
  let str ← Memory.store .outOfBounds out.str out.dst bytes
  let dst := out.dst + toCopy
  let remain := out.remain - toCopy
  if remain = 0 then pure ⟨str, dst, remain⟩
  else do
    let str ← Memory.store .outOfBounds str dst [DOT]
    pure ⟨str, dst + 1, remain - 1⟩

/-- The loop of `mdns_string_extract`, with `left` more labels allowed and `fin` the
end of the name if it is known: the end of the name, unless the loop is left early,
and the output. -/
def mdnsStringExtractLoop (buf : List U8) (size : ℕ) :
    ℕ → ℕ → Option ℕ → MdnsOutput → Except Fault (Option ℕ × MdnsOutput)
  | 0, cur, _, out => do
    let _ ← mdnsGetNextSubstring buf size cur
    pure (none, out)
  | left + 1, cur, fin, out => do
    let substr ← mdnsGetNextSubstring buf size cur
    match substr.offset with
    | none => pure (none, out)
    | some pos =>
      let fin := if substr.ref ∧ fin = none then some (cur + 2) else fin
      if substr.length = 0 then pure (some (fin.getD (pos + substr.length + 1)), out)
      else do
        let out ← mdnsCopyLabel buf pos substr.length out
        mdnsStringExtractLoop buf size left (pos + substr.length) fin out

/-- What `mdns_string_extract` leaves: the memory at `result.str`, `result.length`,
`*offset`, and which of its two returns it takes. -/
structure MdnsExtracted where
  str : List U8
  length : ℕ
  offset : ℕ
  atEnd : Bool
  deriving DecidableEq

/-- `mdns_string_extract` -/
def mdnsStringExtract (buf : List U8) (size offset : ℕ) (str : List U8) (capacity : ℕ) :
    Except Fault MdnsExtracted := do
  let r ← mdnsStringExtractLoop buf size (MDNS_MAX_SUBSTRINGS + 1) offset none ⟨str, 0, capacity⟩
  match r.1 with
  | none => pure ⟨r.2.str, 0, offset, false⟩
  | some fin => pure ⟨r.2.str, capacity - r.2.remain, fin, true⟩

/-! ### Packing a name -/

/-- `mdns_string_find` -/
def mdnsStringFind (str : List U8) (length : ℕ) (c : U8) (offset : ℕ) : Option ℕ :=
  if length ≤ offset then none
  else (((str.take length).drop offset).findIdx? (· = c)).map (offset + ·)

/-- What is found lies at or behind the offset the search starts from. -/
lemma le_of_mdnsStringFind {str : List U8} {length : ℕ} {c : U8} {offset pos : ℕ}
    (h : mdnsStringFind str length c offset = some pos) : offset ≤ pos := by
  rw [mdnsStringFind] at h
  split_ifs at h
  obtain ⟨i, -, rfl⟩ := Option.map_eq_some_iff.mp h
  exact Nat.le_add_right offset i

/-- `last_pos` after a label. -/
def mdnsNextPos (name : List U8) (length lastPos : ℕ) : ℕ :=
  ((mdnsStringFind name length DOT lastPos).map (· + 1)).getD length

/-- The loop of `mdns_string_make` advances. -/
lemma lt_mdnsNextPos (name : List U8) {length lastPos : ℕ} (h : lastPos < length) :
    lastPos < mdnsNextPos name length lastPos := by
  rw [mdnsNextPos]
  cases hf : mdnsStringFind name length DOT lastPos with
  | none => exact h
  | some pos => exact Nat.lt_succ_of_le (le_of_mdnsStringFind hf)

/-- The loop of `mdns_string_make`: the memory of the buffer, and the end of the name
in it unless the name does not fit. -/
def mdnsStringMakeLoop (capacity : ℕ) (name : List U8) (length : ℕ) (buffer : List U8)
    (data lastPos : ℕ) : Except Fault (List U8 × Option ℕ) :=
  let remain := capacity - data
  if h : lastPos < length then do
    let pos := mdnsStringFind name length DOT lastPos
    let subLength := pos.getD length - lastPos
    if remain ≤ subLength + 1 then pure (buffer, none)
    else do
      let buffer ← Memory.store .outOfBounds buffer data [BitVec.ofNat 8 subLength]
      let bytes ← Memory.slice .outOfBounds name lastPos subLength
      let buffer ← Memory.store .outOfBounds buffer (data + 1) bytes
      mdnsStringMakeLoop capacity name length buffer (data + (subLength + 1))
        (mdnsNextPos name length lastPos)
  else if remain = 0 then pure (buffer, none)
  else do
    let buffer ← Memory.store .outOfBounds buffer data [0]
    pure (buffer, some (data + 1))
termination_by length - lastPos
decreasing_by
  have := lt_mdnsNextPos name h
  omega

/-- `mdns_string_make` without a string table. -/
def mdnsStringMake (buffer : List U8) (capacity data : ℕ) (name : List U8) (length : ℕ) :
    Except Fault (List U8 × Option ℕ) :=
  if length = 0 then .error .outOfBounds
  else do
    let last ← loadByte name (length - 1)
    mdnsStringMakeLoop capacity name (if last = DOT then length - 1 else length) buffer data 0

end Cc1352Greybus
