import Cc1352Greybus.Mdns.Receive

/-!
`mdns_query_recv`: the datagrams of one round, and the addresses it lists.

Each datagram is received over a stack frame of its own, and `*addrptr` is the next entry of
the list. The loop ends when nothing is left to receive, or when the list is full.

* `MdnsReception.answer`: the source of a datagram that is taken for an answer.
* `answerers`: the sources of the first answers, one after the other.
* `mdnsQueryRecv_eq`: these are what is listed, and nothing else of the list is written.
* `answerers_of_plain`: where no stack decides, they are the sources of the datagrams that
  carry the name asked for.
* `query_recv_lists`: both.
-/

namespace Cc1352Greybus

open Memory (splice)

/-! ### The model -/

/-- A call of `mdns_query_recv_internal`: what is received, if anything is, and what its stack
holds. -/
structure MdnsReception where
  received : Option MdnsDatagram
  buffer : Vector U8 MDNS_RESPONSE_BUFFER_SIZE
  namebuffer : Vector U8 MDNS_PTR_NAME_SIZE

/-- The body of the loop of `mdns_query_recv`: `addr_list`, and `total`. -/
def mdnsQueryRecvBody (query : List U8) (r : MdnsReception) (addrList : List (BitVec 128))
    (total : ℕ) : Except Fault (List (BitVec 128) × ℕ) := do
  let addr ← Memory.load .outOfBounds addrList total
  let (ret, addr) ← mdnsQueryRecvInternal r.received r.buffer r.namebuffer query addr
  pure (addrList.set total addr, total + ret)

/-- The loop of `mdns_query_recv`, as long as `zsock_poll` returns more than zero. -/
def mdnsQueryRecvLoop (addrListLen : ℕ) (query : List U8) :
    List MdnsReception → List (BitVec 128) → ℕ → Except Fault (List (BitVec 128) × ℕ)
  | [], addrList, total => pure (addrList, total)
  | r :: rs, addrList, total =>
    if total < addrListLen then do
      let (addrList, total) ← mdnsQueryRecvBody query r addrList total
      mdnsQueryRecvLoop addrListLen query rs addrList total
    else pure (addrList, total)

/-- `mdns_query_recv` -/
def mdnsQueryRecv (rs : List MdnsReception) (addrList : List (BitVec 128)) (addrListLen : ℕ)
    (query : List U8) : Except Fault (List (BitVec 128) × ℕ) :=
  mdnsQueryRecvLoop addrListLen query rs addrList 0

/-! ### One call -/

namespace MdnsReception

/-- What comes of a call: the source of a datagram that is taken for an answer. -/
def answer (query : List U8) (r : MdnsReception) : Except Fault (Option (BitVec 128)) :=
  match r.received with
  | none => .ok none
  | some d => (answerOver query (datagramVisits d.bytes) r.namebuffer.toList).map
      fun found => if found then some d.source else none

variable {query : List U8}

lemma answer_some {r : MdnsReception} {d : MdnsDatagram} (h : r.received = some d) :
    r.answer query = (answerOver query (datagramVisits d.bytes) r.namebuffer.toList).map
      fun found => if found then some d.source else none := by
  rw [answer, h]

/-- What the call returns, and what it leaves at `addrptr`. -/
lemma recv_eq (r : MdnsReception) (addr : BitVec 128) :
    mdnsQueryRecvInternal r.received r.buffer r.namebuffer query addr =
      (r.answer query).map fun a => a.elim (0, addr) (1, ·) := by
  cases hd : r.received with
  | none =>
      rw [answer, hd]
      rfl
  | some d =>
      rw [mdnsQueryRecvInternal_eq, answer_some hd, recvOutcome]
      cases answerOver query (datagramVisits d.bytes) r.namebuffer.toList with
      | error e => rfl
      | ok found => cases found <;> rfl

end MdnsReception

/-- A call writes its answer at the end of the list, if it has one. -/
lemma mdnsQueryRecvBody_eq {query : List U8} {addrList : List (BitVec 128)} {total : ℕ}
    (h : total < addrList.length) (r : MdnsReception) :
    mdnsQueryRecvBody query r addrList total = (r.answer query).map
      fun a => (splice addrList total a.toList, total + a.toList.length) := by
  rw [mdnsQueryRecvBody, Memory.load_of_lt _ h]
  show (mdnsQueryRecvInternal _ _ _ _ addrList[total] >>= _) = _
  rw [r.recv_eq]
  cases r.answer query with
  | error e => rfl
  | ok a =>
      cases a with
      | none =>
          have hsame : addrList.set total addrList[total] = addrList := List.set_getElem_self h
          show Except.ok (addrList.set total addrList[total], total + 0) = .ok (splice _ _ [], _)
          rw [hsame, Memory.splice_nil]
          rfl
      | some addr =>
          have hset : addrList.set total addr = splice addrList total [addr] := by
            rw [List.set_eq_take_append_cons_drop, if_pos h, splice, List.append_assoc]
            rfl
          exact congrArg (fun l => Except.ok (l, total + 1)) hset

/-! ### The loop -/

/-- The sources of the first answers among some receptions, as far as there is room. -/
def answerers (query : List U8) : ℕ → List MdnsReception → Except Fault (List (BitVec 128))
  | 0, _ => .ok []
  | _ + 1, [] => .ok []
  | room + 1, r :: rs => do
    match ← r.answer query with
    | none => answerers query (room + 1) rs
    | some addr => do
      let addrs ← answerers query room rs
      pure (addr :: addrs)

/-- There are no more of them than there is room for. -/
lemma length_answerers {query : List U8} {room : ℕ} {rs : List MdnsReception}
    {addrs : List (BitVec 128)} (h : answerers query room rs = .ok addrs) :
    addrs.length ≤ room := by
  induction rs generalizing room addrs with
  | nil => cases room <;> cases h <;> simp
  | cons r rs ih =>
      cases room with
      | zero =>
          cases h
          simp
      | succ room =>
          rw [answerers] at h
          cases hr : r.answer query with
          | error e =>
              rw [hr] at h
              cases h
          | ok a =>
              rw [hr] at h
              cases a with
              | none => exact ih h
              | some addr =>
                  cases hrest : answerers query room rs with
                  | error e =>
                      simp only [hrest] at h
                      cases h
                  | ok rest =>
                      simp only [hrest] at h
                      cases h
                      exact Nat.succ_le_succ (ih hrest)

/-- The loop lists them from where it is. -/
lemma mdnsQueryRecvLoop_eq {query : List U8} {addrListLen : ℕ} {addrList : List (BitVec 128)}
    {total : ℕ} (hlen : addrListLen ≤ addrList.length) (htotal : total ≤ addrListLen)
    (rs : List MdnsReception) :
    mdnsQueryRecvLoop addrListLen query rs addrList total =
      (answerers query (addrListLen - total) rs).map
        fun addrs => (splice addrList total addrs, total + addrs.length) := by
  -- on the receptions; `total` and the array move with each that lists an address
  induction rs generalizing addrList total with
  | nil =>
      have hnone : answerers query (addrListLen - total) [] = .ok [] := by
        cases addrListLen - total <;> rfl
      rw [hnone]
      show Except.ok (addrList, total) = .ok (splice addrList total [], total + 0)
      rw [Memory.splice_nil]
      rfl
  | cons r rs ih =>
      rw [mdnsQueryRecvLoop]
      by_cases hroom : total < addrListLen
      · obtain ⟨room, hrest⟩ : ∃ room, addrListLen - total = room + 1 :=
          ⟨addrListLen - total - 1, by omega⟩
        rw [if_pos hroom, mdnsQueryRecvBody_eq (by omega), hrest, answerers]
        cases r.answer query with
        | error e => rfl
        | ok a =>
            cases a with
            | none =>
                show mdnsQueryRecvLoop _ _ _ (splice addrList total []) (total + 0) = _
                rw [Memory.splice_nil, Nat.add_zero, ih hlen htotal, hrest]
                rfl
            | some addr =>
                have hin : total + [addr].length ≤ addrList.length := by
                  rw [List.length_singleton]
                  omega
                show mdnsQueryRecvLoop _ _ _ (splice addrList total [addr]) (total + 1) = _
                rw [ih (by rwa [Memory.splice_length hin]) hroom,
                  show addrListLen - (total + 1) = room by omega]
                cases answerers query room rs with
                | error e => rfl
                | ok addrs =>
                    -- an address written, and those behind it
                    have hjoin : splice (splice addrList total [addr]) (total + 1) addrs =
                        splice addrList total (addr :: addrs) :=
                      Memory.splice_splice [addr] addrs (by omega)
                    show Except.ok (splice (splice addrList total [addr]) (total + 1) addrs,
                      total + 1 + addrs.length) = .ok (splice addrList total (addr :: addrs), _)
                    rw [hjoin, List.length_cons, Nat.add_assoc, Nat.add_comm 1]
      · rw [if_neg hroom, show addrListLen - total = 0 by omega, answerers]
        show Except.ok (addrList, total) = .ok (splice addrList total [], total + 0)
        rw [Memory.splice_nil]
        rfl

/-- **What is listed** are the sources of the first answers, in order; the rest of the list is
left alone. -/
theorem mdnsQueryRecv_eq {query : List U8} {addrListLen : ℕ} {addrList : List (BitVec 128)}
    (hlen : addrListLen ≤ addrList.length) (rs : List MdnsReception) :
    mdnsQueryRecv rs addrList addrListLen query =
      (answerers query addrListLen rs).map fun addrs => (splice addrList 0 addrs, addrs.length) := by
  rw [mdnsQueryRecv, mdnsQueryRecvLoop_eq hlen (Nat.zero_le _), Nat.sub_zero]
  simp only [Nat.zero_add]

/-! ### Answers -/

instance (query : List U8) (v : MdnsVisit) : Decidable (v.Sure query) :=
  match v with
  | .name _ _ => inferInstanceAs (Decidable (_ <+: _))
  | .wild => inferInstanceAs (Decidable False)
  | .outside => inferInstanceAs (Decidable False)
  | .short => inferInstanceAs (Decidable False)

namespace MdnsDatagram

/-- A record of the datagram carries the name asked for, by its own bytes. -/
def Carries (query : List U8) (d : MdnsDatagram) : Prop :=
  ∃ v ∈ datagramVisits d.bytes, v.Sure query

instance (query : List U8) (d : MdnsDatagram) : Decidable (d.Carries query) :=
  inferInstanceAs (Decidable (∃ v ∈ datagramVisits d.bytes, v.Sure query))

/-- One does, or one has the first bytes of the name and leaves the others to the stack. -/
def MayCarry (query : List U8) (d : MdnsDatagram) : Prop :=
  ∃ v ∈ datagramVisits d.bytes, v.Sure query ∨ v.Open query

/-- Neither the stack nor a null pointer has a say. -/
def Plain (query : List U8) (d : MdnsDatagram) : Prop :=
  d.Carries query ∨ ∀ v ∈ datagramVisits d.bytes, ¬ v.Open query ∧ v ≠ .short

end MdnsDatagram

/-- A walk that no comparison ends reports nothing. -/
lemma answerLost_ne_true (vs : List MdnsVisit) : answerLost vs ≠ .ok true := by
  induction vs with
  | nil => simp [answerLost]
  | cons v vs ih =>
      rw [answerLost]
      split_ifs <;> simp [ih]

/-- It ends well if there is nothing to fault on. -/
lemma answerLost_eq_false {vs : List MdnsVisit} (hwild : MdnsVisit.wild ∉ vs)
    (hshort : MdnsVisit.short ∉ vs) : answerLost vs = .ok false := by
  induction vs with
  | nil => rfl
  | cons v vs ih =>
      rw [List.mem_cons, not_or] at hwild hshort
      rw [answerLost, if_neg (Ne.symm hwild.1), if_neg (Ne.symm hshort.1)]
      exact ih hwild.2 hshort.2

namespace MdnsReception

variable {query : List U8} {r : MdnsReception}

/-- **An answer** is a datagram that may carry the name asked for. -/
lemma answer_mayCarry {addr : BitVec 128} (h : r.answer query = .ok (some addr)) :
    ∃ d, r.received = some d ∧ d.source = addr ∧ d.MayCarry query := by
  cases hd : r.received with
  | none =>
      rw [answer, hd] at h
      cases h
  | some d =>
      obtain ⟨stale, hstale⟩ :=
        exists_answerOver_eq query (datagramVisits d.bytes) r.namebuffer.toList
      rw [answer_some hd, hstale] at h
      refine ⟨d, rfl, ?_, ?_⟩
      -- it answers by the source of the datagram
      · cases hany : answerAny query (datagramVisits d.bytes) stale with
        | error e =>
            rw [hany] at h
            cases h
        | ok found =>
            rw [hany] at h
            cases found <;> cases h
            rfl
      -- no visit could win, whatever was left in the array
      · by_contra hno
        rw [MdnsDatagram.MayCarry] at hno
        push Not at hno
        rw [answerAny_of_not_keyed fun v hv k =>
          MdnsVisit.not_keyed_of_closed (hno v hv).1 (hno v hv).2 (stale k)] at h
        cases hlost : answerLost (datagramVisits d.bytes) with
        | error e =>
            rw [hlost] at h
            cases h
        | ok found =>
            rw [hlost] at h
            cases found with
            | false => cases h
            | true => exact answerLost_ne_true _ hlost

/-- A plain datagram is one exactly if it carries the name. -/
lemma answer_plain (hfits : mdnsExpected.length + query.length ≤ MDNS_PTR_NAME_SIZE)
    {d : MdnsDatagram} (hd : r.received = some d) (hplain : d.Plain query) :
    r.answer query = .ok (if d.Carries query then some d.source else none) := by
  obtain ⟨hlast, hwild⟩ := datagramVisits_walk d
  obtain ⟨stale, hstale⟩ :=
    exists_answerOver_eq query (datagramVisits d.bytes) r.namebuffer.toList
  rw [answer_some hd, hstale]
  by_cases hcarries : d.Carries query
  · obtain ⟨v, hv, hsure⟩ := id hcarries
    rw [answerAny_of_keyed hlast hv fun k => hsure.keyed (stale k), mdnsWon, if_pos hfits,
      if_pos hcarries]
    rfl
  · have hclosed := hplain.resolve_left hcarries
    have hlost : answerAny query (datagramVisits d.bytes) stale = .ok false := by
      rw [answerAny_of_not_keyed fun v hv k => MdnsVisit.not_keyed_of_closed
        (fun hsure => hcarries ⟨v, hv, hsure⟩) (hclosed v hv).1 (stale k)]
      exact answerLost_eq_false hwild fun hshort => (hclosed _ hshort).2 rfl
    rw [hlost, if_neg hcarries]
    rfl

end MdnsReception

/-- The source of a datagram that carries the name asked for. -/
def carrier (query : List U8) (r : MdnsReception) : Option (BitVec 128) :=
  r.received.bind fun d => if d.Carries query then some d.source else none

/-- **Where no stack decides**, what is listed are the sources of the datagrams that carry the
name asked for. -/
theorem answerers_of_plain {query : List U8}
    (hfits : mdnsExpected.length + query.length ≤ MDNS_PTR_NAME_SIZE) {rs : List MdnsReception}
    (hplain : ∀ r ∈ rs, ∀ d, r.received = some d → d.Plain query) (room : ℕ) :
    answerers query room rs = .ok ((rs.filterMap (carrier query)).take room) := by
  induction rs generalizing room with
  | nil => cases room <;> rfl
  | cons r rs ih =>
      rw [List.forall_mem_cons] at hplain
      have hanswer : r.answer query = .ok (carrier query r) := by
        cases hd : r.received with
        | none =>
            rw [MdnsReception.answer, carrier, hd]
            rfl
        | some d =>
            rw [MdnsReception.answer_plain hfits hd (hplain.1 d hd), carrier, hd]
            rfl
      cases room with
      | zero => rfl
      | succ room =>
          rw [answerers, hanswer]
          cases hr : carrier query r with
          | none =>
              show answerers query (room + 1) rs = _
              rw [ih hplain.2, List.filterMap_cons_none hr]
          | some addr =>
              show (answerers query room rs >>= _) = _
              rw [ih hplain.2, List.filterMap_cons_some hr]
              rfl

/-- **Who is listed**: of a list long enough, `mdns_query_recv` writes the first entries only, in
order the sources of the first answers. Where no stack decides what is one, they are the sources
of the datagrams that carry the name asked for. -/
theorem query_recv_lists {query : List U8} {addrListLen : ℕ} {addrList : List (BitVec 128)}
    (hlen : addrListLen ≤ addrList.length) (rs : List MdnsReception) :
    mdnsQueryRecv rs addrList addrListLen query = (answerers query addrListLen rs).map
        (fun addrs => (splice addrList 0 addrs, addrs.length)) ∧
      (∀ addrs, answerers query addrListLen rs = .ok addrs → addrs.length ≤ addrListLen) ∧
      (mdnsExpected.length + query.length ≤ MDNS_PTR_NAME_SIZE →
        (∀ r ∈ rs, ∀ d, r.received = some d → d.Plain query) →
          answerers query addrListLen rs =
            .ok ((rs.filterMap (carrier query)).take addrListLen)) :=
  ⟨mdnsQueryRecv_eq hlen rs, fun _ => length_answerers,
    fun hfits hplain => answerers_of_plain hfits hplain addrListLen⟩

/-- A node answers. -/
def greybusDatagram : MdnsDatagram where
  bytes := greybusAnswer
  source := 1
  bytes_ne := by decide
  bytes_le := by decide

/-- It is received over a stack of zeros. -/
def greybusReception : MdnsReception :=
  ⟨some greybusDatagram, Vector.replicate _ 0, Vector.replicate _ 0⟩

/-- The node is listed, whichever of the two receptions ends the count. -/
theorem query_recv_lists_node :
    mdnsQueryRecv [greybusReception, greybusReception] [0, 0, 0] 3 greybusService.text =
        (answerers greybusService.text 3 [greybusReception, greybusReception]).map
          (fun addrs => (splice [0, 0, 0] 0 addrs, addrs.length)) ∧
      (∀ addrs, answerers greybusService.text 3 [greybusReception, greybusReception] = .ok addrs →
        addrs.length ≤ 3) ∧
      (mdnsExpected.length + greybusService.text.length ≤ MDNS_PTR_NAME_SIZE →
        (∀ r ∈ [greybusReception, greybusReception], ∀ d, r.received = some d →
          d.Plain greybusService.text) →
            answerers greybusService.text 3 [greybusReception, greybusReception] =
              .ok (([greybusReception, greybusReception].filterMap
                (carrier greybusService.text)).take 3)) :=
  query_recv_lists le_rfl [greybusReception, greybusReception]

/-- A node that answers twice is listed twice. -/
example : mdnsQueryRecv [greybusReception, greybusReception] [0, 0, 0] 3 greybusService.text =
    .ok ([1, 1, 0], 2) := by decide +kernel

end Cc1352Greybus
