import Cc1352Greybus.Hdlc.Soundness

/-!
Where the receiver stores, and what its callback may read.

The driver is followed together with the stores it has made since
`rx_buffer_len` was last zero. They fill the buffer from its start without a
gap, so that what lies in front of `rx_buffer_len` has been written in this run.

* `hdlcRxStore_spec`: the store a byte makes, in terms of the two states.
* `rx_buffer_bounds`: on every stream, after every byte, the length, the index of
  the store and the slice of the callback stay within the buffer.
-/

namespace Cc1352Greybus

variable {cfg : Config}

/-! ### The stores -/

/-- The index `hdlc_save_byte` stores at. -/
def hdlcSaveIndex (drv : HdlcDriver cfg) : ℕ :=
  if cfg.hdlcMaxBlockSize ≤ drv.rxBufferLen then 0 else drv.rxBufferLen

/-- The store into `rx_buffer` one received byte leads to, with its index. -/
def hdlcRxStore (drv : HdlcDriver cfg) (byte : U8) : Option (ℕ × U8) :=
  if byte = HDLC_FRAME ∨ byte = HDLC_ESC then none
  else some (hdlcSaveIndex drv, if drv.nextEscaped then byte ^^^ 0x20 else byte)

/-- A save writes one cell and counts it. -/
lemma hdlcSaveByte_store (drv : HdlcDriver cfg) (byte : U8) :
    (hdlcSaveByte drv byte).rxBuffer = drv.rxBuffer.setIfInBounds (hdlcSaveIndex drv) byte ∧
      (hdlcSaveByte drv byte).rxBufferLen = hdlcSaveIndex drv + 1 := by
  by_cases h : cfg.hdlcMaxBlockSize ≤ drv.rxBufferLen
  · simp [hdlcSaveByte, hdlcSaveIndex, h]
  · simp [hdlcSaveByte, hdlcSaveIndex, h]

/-- A flag leaves the buffer as it is and nothing stored. -/
lemma hdlcRxInputByte_flag (drv : HdlcDriver cfg) :
    (hdlcRxInputByte drv HDLC_FRAME).1.rxBuffer = drv.rxBuffer ∧
      (hdlcRxInputByte drv HDLC_FRAME).1.rxBufferLen = 0 := by
  by_cases hl : drv.rxBufferLen = 0
  · simp [hdlcRxInputByte, hl]
  · have hin : (hdlcRxInputByte drv HDLC_FRAME).1 = (hdlcProcessFrame drv).1 := by
      simp [hdlcRxInputByte, hl]
    rw [hin]
    simp only [hdlcProcessFrame, and_true]
    split_ifs <;> rfl

/-- A byte changes `rx_buffer` by its store and by nothing else. -/
lemma hdlcRxStore_spec (drv : HdlcDriver cfg) (byte : U8) :
    match hdlcRxStore drv byte with
    | none => (hdlcRxInputByte drv byte).1.rxBuffer = drv.rxBuffer ∧
        ((hdlcRxInputByte drv byte).1.rxBufferLen = 0 ∨
          (hdlcRxInputByte drv byte).1.rxBufferLen = drv.rxBufferLen)
    | some (i, c) => (hdlcRxInputByte drv byte).1.rxBuffer = drv.rxBuffer.setIfInBounds i c ∧
        (hdlcRxInputByte drv byte).1.rxBufferLen = i + 1 := by
  by_cases hf : byte = HDLC_FRAME
  · subst hf
    rw [hdlcRxStore, if_pos (Or.inl rfl)]
    exact ⟨(hdlcRxInputByte_flag drv).1, Or.inl (hdlcRxInputByte_flag drv).2⟩
  · by_cases he : byte = HDLC_ESC
    · rw [hdlcRxStore, if_pos (Or.inr he), hdlcRxInputByte, if_neg hf, if_pos he]
      exact ⟨rfl, Or.inr rfl⟩
    · rw [hdlcRxStore, if_neg (by tauto), hdlcRxInputByte, if_neg hf, if_neg he]
      exact hdlcSaveByte_store _ _

/-- A store finds room. -/
lemma hdlcSaveIndex_lt (drv : HdlcDriver cfg) : hdlcSaveIndex drv < cfg.hdlcMaxBlockSize := by
  rw [hdlcSaveIndex]
  split_ifs with h
  · exact cfg.block_pos
  · exact Nat.not_le.mp h

lemma hdlcRxStore_index {drv : HdlcDriver cfg} {byte : U8} {i : ℕ} {c : U8}
    (h : hdlcRxStore drv byte = some (i, c)) : i = hdlcSaveIndex drv := by
  by_cases hr : byte = HDLC_FRAME ∨ byte = HDLC_ESC
  · rw [hdlcRxStore, if_pos hr] at h
    cases h
  · rw [hdlcRxStore, if_neg hr, Option.some.injEq, Prod.mk.injEq] at h
    exact h.1.symm

lemma hdlcRxStore_lt {drv : HdlcDriver cfg} {byte : U8} {i : ℕ} {c : U8}
    (h : hdlcRxStore drv byte = some (i, c)) : i < cfg.hdlcMaxBlockSize :=
  hdlcRxStore_index h ▸ hdlcSaveIndex_lt drv

/-! ### The stores since the length was last zero -/

/-- The driver, and its stores since `rx_buffer_len` was last zero. It is zero
before a store at index 0. -/
def hdlcStoresStep (x : HdlcDriver cfg × List (ℕ × U8)) (byte : U8) :
    HdlcDriver cfg × List (ℕ × U8) :=
  ((hdlcRxInputByte x.1 byte).1,
    match hdlcRxStore x.1 byte with
    | some (i, c) => if i = 0 then [(i, c)] else x.2 ++ [(i, c)]
    | none => if (hdlcRxInputByte x.1 byte).1.rxBufferLen = 0 then [] else x.2)

/-- The stores since `rx_buffer_len` was last zero, at the end of a stream. -/
def storesSince (drv : HdlcDriver cfg) (bs : List U8) : List (ℕ × U8) :=
  (bs.foldl hdlcStoresStep (hdlcInit drv, [])).2

/-- The driver is followed as it runs. -/
lemma foldl_hdlcStoresStep_fst (x : HdlcDriver cfg × List (ℕ × U8)) (bs : List U8) :
    (bs.foldl hdlcStoresStep x).1 = (hdlcProcessBuffer x.1 bs).1 := by
  induction bs generalizing x with
  | nil => rfl
  | cons b bs ih => exact ih _

/-- The stores cover the buffer in front of `rx_buffer_len`, each index once and
in order, and are what is found there. -/
structure Covers (drv : HdlcDriver cfg) (stores : List (ℕ × U8)) : Prop where
  indices : stores.map Prod.fst = List.range drv.rxBufferLen
  bytes : stores.map Prod.snd = drv.stored

namespace Covers

variable {drv : HdlcDriver cfg} {stores : List (ℕ × U8)}

/-- Every byte in front of the length was stored. -/
lemma mem_of_lt (h : Covers drv stores) {i : ℕ} (hi : i < drv.rxBufferLen) :
    ∃ c, drv.rxBuffer.toList[i]? = some c ∧ (i, c) ∈ stores := by
  have hlen : stores.length = drv.rxBufferLen := by
    calc stores.length = (stores.map Prod.fst).length := (List.length_map _).symm
      _ = drv.rxBufferLen := by rw [h.indices, List.length_range]
  have hget : i < stores.length := hlen ▸ hi
  have hfst : stores[i].1 = i := by
    have := congrArg (fun l : List ℕ => l[i]?) h.indices
    simpa [hget, hi] using this
  have hsnd : drv.rxBuffer.toList[i]? = some stores[i].2 := by
    have := congrArg (fun l : List U8 => l[i]?) h.bytes
    simpa [HdlcDriver.stored, List.getElem?_take, hget, hi] using this.symm
  exact ⟨stores[i].2, hsnd, by
    have hmem := List.getElem_mem hget
    rwa [show stores[i] = (i, stores[i].2) from Prod.ext hfst rfl] at hmem⟩

/-- A store at the end of what is stored. -/
lemma store (h : Covers drv stores) {drv' : HdlcDriver cfg} {c : U8}
    (hlt : drv.rxBufferLen < cfg.hdlcMaxBlockSize)
    (hbuf : drv'.rxBuffer = drv.rxBuffer.setIfInBounds drv.rxBufferLen c)
    (hlen : drv'.rxBufferLen = drv.rxBufferLen + 1) :
    Covers drv' (stores ++ [(drv.rxBufferLen, c)]) where
  indices := by rw [List.map_append, h.indices, hlen, List.range_succ]; rfl
  bytes := by
    rw [List.map_append, h.bytes, HdlcDriver.stored, HdlcDriver.stored, hbuf, hlen,
      take_setIfInBounds _ c hlt]
    rfl

/-- A driver with nothing stored. -/
lemma of_len_eq_zero (h : drv.rxBufferLen = 0) : Covers drv [] :=
  ⟨by simp [h], by simp [HdlcDriver.stored, h]⟩

/-- **One byte**: the stores go on covering the buffer. -/
lemma step (h : Covers drv stores) (byte : U8) :
    Covers (hdlcStoresStep (drv, stores) byte).1 (hdlcStoresStep (drv, stores) byte).2 := by
  have hspec := hdlcRxStore_spec drv byte
  simp only [hdlcStoresStep]
  cases hs : hdlcRxStore drv byte with
  | none =>
      rw [hs] at hspec
      obtain ⟨hbuf, hlen⟩ := hspec
      by_cases hz : (hdlcRxInputByte drv byte).1.rxBufferLen = 0
      · simp only [hz, if_true]
        exact of_len_eq_zero hz
      · have hsame := hlen.resolve_left hz
        simp only [hz, if_false]
        exact ⟨by rw [h.indices, hsame], by rw [h.bytes, HdlcDriver.stored, HdlcDriver.stored,
          hbuf, hsame]⟩
  | some store =>
      obtain ⟨i, c⟩ := store
      rw [hs] at hspec
      have hi : i = hdlcSaveIndex drv := hdlcRxStore_index hs
      by_cases hz : i = 0
      · -- the buffer restarts, or had nothing in it
        subst hz
        have hnil : Covers { drv with rxBufferLen := 0 } [] := of_len_eq_zero rfl
        simpa using hnil.store cfg.block_pos hspec.1 hspec.2
      · have hidx : i = drv.rxBufferLen := by
          rw [hdlcSaveIndex] at hi
          split_ifs at hi with hfull
          · exact absurd hi hz
          · exact hi
        have hlt : drv.rxBufferLen < cfg.hdlcMaxBlockSize := hidx ▸ hdlcRxStore_lt hs
        simp only [hz, if_false]
        rw [hidx] at hspec ⊢
        exact h.store hlt hspec.1 hspec.2

end Covers

/-- **A stream**: what lies in front of `rx_buffer_len` has been stored since the
length was last zero. -/
theorem covers_storesSince (drv : HdlcDriver cfg) (bs : List U8) :
    Covers (hdlcAfter drv bs) (storesSince drv bs) := by
  have hfst : ∀ as : List U8,
      (as.foldl hdlcStoresStep (hdlcInit drv, [])).1 = hdlcAfter drv as :=
    foldl_hdlcStoresStep_fst (hdlcInit drv, [])
  induction bs using List.reverseRecOn with
  | nil => exact Covers.of_len_eq_zero rfl
  | append_singleton bs b ih =>
      have hstep := ih.step b
      rw [← hfst, storesSince, List.foldl_append]
      rwa [← hfst bs] at hstep

/-! ### The bounds -/

/-- The bounds kept by one byte of a stream, read after a stretch of it. -/
structure RxBounded (drv : HdlcDriver cfg) (pre : List U8) (byte : U8) : Prop where
  /-- The length stays within the buffer. -/
  len_le : (hdlcAfter drv (pre ++ [byte])).rxBufferLen ≤ cfg.hdlcMaxBlockSize
  /-- The byte changes the buffer by its store, and by nothing else. -/
  stores : (hdlcRxInputByte (hdlcAfter drv pre) byte).1.rxBuffer =
    match hdlcRxStore (hdlcAfter drv pre) byte with
    | none => (hdlcAfter drv pre).rxBuffer
    | some (i, c) => (hdlcAfter drv pre).rxBuffer.setIfInBounds i c
  /-- A store is made inside the buffer. -/
  store_lt : ∀ i c, hdlcRxStore (hdlcAfter drv pre) byte = some (i, c) →
    i < cfg.hdlcMaxBlockSize
  /-- The length the callback is told has not wrapped. -/
  not_wrapped : ∀ f, (hdlcRxInputByte (hdlcAfter drv pre) byte).2 = some f →
    f.len + 4 = (hdlcAfter drv pre).rxBufferLen
  /-- The slice the callback is handed, and the FCS behind it, have been stored since
  the length was last zero. -/
  slice_stored : ∀ f, (hdlcRxInputByte (hdlcAfter drv pre) byte).2 = some f →
    ∀ i < f.len + 2, ∃ c, f.buffer[i]? = some c ∧ (2 + i, c) ∈ storesSince drv pre

/-- A callback is made on what is stored, which is at least a frame's overhead. -/
lemma callback_eq_processCompleteFrame {drv : HdlcDriver cfg} {byte : U8} {f : RxFrame}
    (h : (hdlcRxInputByte drv byte).2 = some f) :
    3 < drv.rxBufferLen ∧ f = hdlcProcessCompleteFrame drv := by
  have hb : byte = HDLC_FRAME := by
    by_contra hb
    rw [input_of_ne_flag drv hb] at h
    cases h
  subst hb
  rw [input_flag_eq] at h
  split_ifs at h with hacc
  cases h
  exact ⟨hacc.1, rfl⟩

/-- **Receive buffer bounds**: on every stream from `hdlc_init` on, after every
byte, nothing is stored outside `rx_buffer`, and a callback is handed bytes of
this run only. -/
theorem rx_buffer_bounds (drv : HdlcDriver cfg) (pre : List U8) (byte : U8) :
    RxBounded drv pre byte := by
  have hwrap : ∀ f, (hdlcRxInputByte (hdlcAfter drv pre) byte).2 = some f →
      f.len + 4 = (hdlcAfter drv pre).rxBufferLen := by
    intro f hf
    obtain ⟨h3, rfl⟩ := callback_eq_processCompleteFrame hf
    have hle := (tracks_hdlcAfter drv pre).len_le
    have hM := cfg.block_lt
    simp only [hdlcProcessCompleteFrame]
    omega
  have hstores : (hdlcRxInputByte (hdlcAfter drv pre) byte).1.rxBuffer =
      match hdlcRxStore (hdlcAfter drv pre) byte with
      | none => (hdlcAfter drv pre).rxBuffer
      | some (i, c) => (hdlcAfter drv pre).rxBuffer.setIfInBounds i c := by
    have hspec := hdlcRxStore_spec (hdlcAfter drv pre) byte
    cases hs : hdlcRxStore (hdlcAfter drv pre) byte with
    | none =>
        rw [hs] at hspec
        exact hspec.1
    | some store =>
        rw [hs] at hspec
        exact hspec.1
  refine ⟨(tracks_hdlcAfter drv (pre ++ [byte])).len_le, hstores, fun i c hs => hdlcRxStore_lt hs,
    hwrap, ?_⟩
  intro f hf i hi
  have hlen := hwrap f hf
  obtain ⟨c, hc, hmem⟩ := (covers_storesSince drv pre).mem_of_lt (i := 2 + i) (by omega)
  obtain ⟨-, rfl⟩ := callback_eq_processCompleteFrame hf
  exact ⟨c, by rw [hdlcProcessCompleteFrame, List.getElem?_drop, hc], hmem⟩

end Cc1352Greybus
