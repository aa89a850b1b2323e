import Cc1352Greybus.Nodes.Removal

/-!
Greybus over TCP: what is written to a socket message by message is read from
the other end message by message, however the stream is cut on the way.

* `sendAll`, `receiveAll`: messages sent and received one after the other.
* `sendAll_ends`, `receiveAll_ends`: each end against the stream.
* `transport_round_trip`: both.
-/

namespace Cc1352Greybus

open Effects

variable {cfg : Config} (env : Env)

/-- `gb_message_send`, message after message, with what it returns. -/
def sendAll (sock : ℤ) : List (U16 × GbMessage) → FwM cfg (List ℤ)
  | [] => return []
  | m :: ms => do
    let ret ← gbMessageSend env sock m.2 m.1
    let rets ← sendAll sock ms
    return ret :: rets

/-- `gb_message_receive`, so many times, with what it returns and the flag. -/
def receiveAll (sock : ℤ) : ℕ → Bool → IoM (List (Option (U16 × GbMessage)) × Bool)
  | 0, flag => return ([], flag)
  | n + 1, flag => do
    let r ← gbMessageReceive env sock flag
    let rs ← receiveAll sock n r.2
    return (r.1 :: rs.1, rs.2)

/-- The bytes of a message on its way. -/
def wire (m : U16 × GbMessage) : List U8 := greybusFrame m.1 m.2.header m.2.payload

/-- What both ends agree on of a message. -/
def meaning (m : U16 × GbMessage) : U16 × (U16 × U16 × U8 × U8) × List U8 :=
  (m.1, m.2.header.fields, m.2.payload)

/-- Every message is sent, and their bytes follow each other. -/
lemma sendAll_ends {sock : ℤ} (hsock : 0 ≤ sock) (hsend : ∀ n, (env.zsockSend n).isSome)
    {ms : List (U16 × GbMessage)} (hms : ∀ m ∈ ms, m.2.Sized) (s : Fw cfg) :
    ∃ sent calls, sentOn sock sent = ms.flatMap wire ∧
      Ends (sendAll env sock ms) s (List.replicate ms.length 0)
        ⟨s.core, s.io.afterSends sent calls⟩ := by
  induction ms generalizing s with
  | nil => exact ⟨[], s.io.sendCalls, rfl, by simp [sendAll, Io.afterSends]⟩
  | cons m ms ih =>
      rw [List.forall_mem_cons] at hms
      obtain ⟨sent, calls, -, hsent, hend⟩ := gbMessageSend_sends env m.1 s hms.1 hsock hsend
      obtain ⟨sent', calls', hsent', hend'⟩ := ih hms.2 ⟨s.core, s.io.afterSends sent calls⟩
      refine ⟨sent ++ sent', calls', ?_, ?_⟩
      · rw [sentOn_append, hsent, hsent', List.flatMap_cons, wire]
      · rw [Io.afterSends_afterSends] at hend'
        exact hend.bind (hend'.bind (Ends.pure _ _))

/-- Every message of a stream is received, and no byte of what follows. -/
lemma receiveAll_ends {sock : ℤ} (hsock : 0 ≤ sock) (halloc : ∀ n size, env.heapAlloc n size = true)
    (flag : Bool) {ms : List (U16 × GbMessage)} (hms : ∀ m ∈ ms, m.2.Sized) {io : Io}
    {rest : List U8}
    (hrx : streamBytes (io.rx sock) = ms.flatMap wire ++ rest) :
    ∃ (got : List (U16 × GbMessage)) (io' : Io),
      Ends (receiveAll env sock ms.length flag) io (got.map some, flag) io' ∧
      got.map meaning = ms.map meaning ∧ streamBytes (io'.rx sock) = rest := by
  induction ms generalizing io with
  | nil => exact ⟨[], io, Ends.pure _ _, rfl, hrx⟩
  | cons m ms ih =>
      rw [List.forall_mem_cons] at hms
      rw [List.flatMap_cons, List.append_assoc, wire] at hrx
      obtain ⟨msg, rx', hfields, hpayload, hrest, hend⟩ :=
        gbMessageReceive_full env hsock flag hms.1 hrx (halloc _ _)
      have hnext : streamBytes ((((io.readFrom sock rx').afterAlloc [.alloc io.heapCalls]).logged
          [.received sock (.full m.1 msg)]).rx sock) = ms.flatMap wire ++ rest := by
        rw [← hrest]
        simp [Io.logged, Io.afterAlloc]
      obtain ⟨got, io', hend', hgot, hleft⟩ := ih hms.2 hnext
      refine ⟨(m.1, msg) :: got, io', hend.bind (hend'.bind (Ends.pure _ _)), ?_, hleft⟩
      rw [List.map_cons, List.map_cons, hgot, meaning, hfields, hpayload, meaning]

/-- **TCP round trip.** Messages sent one after the other on an open socket are
received one after the other from a stream that starts with the bytes that were
sent: the same messages, the flag as it was, and the rest of the stream left. -/
theorem transport_round_trip {sender receiver : Env} {sock sock' : ℤ} (hsock : 0 ≤ sock)
    (hsock' : 0 ≤ sock') (hsend : ∀ n, (sender.zsockSend n).isSome)
    (halloc : ∀ n size, receiver.heapAlloc n size = true) {ms : List (U16 × GbMessage)}
    (hms : ∀ m ∈ ms, m.2.Sized) (s : Fw cfg) :
    ∃ s', Ends (sendAll sender sock ms) s (List.replicate ms.length 0) s' ∧
      ∀ (io : Io) (rest : List U8),
        streamBytes (io.rx sock') = sentOn sock (newEvents s s') ++ rest →
        ∃ (got : List (U16 × GbMessage)) (io' : Io),
          Ends (receiveAll receiver sock' ms.length false) io (got.map some, false) io' ∧
          got.map meaning = ms.map meaning ∧ streamBytes (io'.rx sock') = rest := by
  obtain ⟨sent, calls, hsent, hend⟩ := sendAll_ends sender hsock hsend hms s
  refine ⟨_, hend, fun io rest hrx => ?_⟩
  have hevents : newEvents s ⟨s.core, s.io.afterSends sent calls⟩ = sent := by
    simp [newEvents, Io.afterSends]
  rw [hevents, hsent] at hrx
  exact receiveAll_ends receiver hsock' halloc false hms hrx

/-- A message with a payload and one without, sent and received. -/
theorem transport_round_trip_two :
    ∃ s', Ends (sendAll calmEnv 0 [(2, ⟨0, ⟨9, 1, 0x20, 0, 0, 0⟩, [7]⟩), (0, bareRequest)])
        (Fw.boot .prjConf) (List.replicate 2 0) s' ∧
      ∀ (io : Io) (rest : List U8),
        streamBytes (io.rx 1) = sentOn 0 (newEvents (Fw.boot .prjConf) s') ++ rest →
        ∃ (got : List (U16 × GbMessage)) (io' : Io),
          Ends (receiveAll calmEnv 1 2 false) io (got.map some, false) io' ∧
          got.map meaning =
            [(2, ⟨0, ⟨9, 1, 0x20, 0, 0, 0⟩, [7]⟩), (0, bareRequest)].map meaning ∧
          streamBytes (io'.rx 1) = rest :=
  transport_round_trip (by decide) (by decide) (fun _ => rfl) (fun _ _ => rfl)
    (fun m hm => by
      rcases List.mem_pair.mp hm with rfl | rfl
      · rfl
      · rfl) _

end Cc1352Greybus
