import Cc1352Greybus.Heap.Exhaustion

/-!
What the firmware does, act by act: what of it the AP or a node can tell, and what it
means for the modules in the cache.

* `Act`, `actStep`: a message for the AP, bytes for a node, a module that comes or goes, a
  change of the routes, or something nobody can tell.
* `Acts`: such acts, one after the other. Programs compose by it, as `Respects (Acts ..)`.
* `acts_respond`, `acts_controlSendRequest`, `acts_svcSendModuleRemoved`,
  `acts_nodeFilter`, `acts_nodeInfWrite`: the parts the firmware is made of.
-/

namespace Cc1352Greybus

open Effects

variable {cfg : Config} (env : Env)

/-! ### What is added to the trace -/

/-- What has been added to the trace is of one kind. -/
def Adds (P : Event → Prop) (io io' : Io) : Prop :=
  ∃ tr, io'.trace = io.trace ++ tr ∧ ∀ e ∈ tr, P e

instance (P : Event → Prop) : Std.Refl (Adds P) := ⟨fun _ => ⟨[], by simp, by simp⟩⟩

instance (P : Event → Prop) : IsTrans Io (Adds P) where
  trans := by
    rintro a b c ⟨tr, hb, htr⟩ ⟨tr', hc, htr'⟩
    refine ⟨tr ++ tr', by rw [hc, hb, List.append_assoc], fun e he => ?_⟩
    rcases List.mem_append.mp he with he | he
    · exact htr e he
    · exact htr' e he

lemma Adds.of_trace_eq {P : Event → Prop} {io io' : Io} (h : io'.trace = io.trace) :
    Adds P io io' :=
  ⟨[], by simp [h], by simp⟩

lemma Adds.logged {P : Event → Prop} (io : Io) {tr : List Event} (h : ∀ e ∈ tr, P e) :
    Adds P io (io.logged tr) :=
  ⟨tr, rfl, h⟩

lemma newEvents_eq {s s' : Fw cfg} {tr : List Event} (h : s'.io.trace = s.io.trace ++ tr) :
    newEvents s s' = tr := by
  rw [newEvents, h, List.drop_left]

/-- Neither the AP nor a node can tell: nothing goes out on the UART or on a socket, no module
is reported and discovery is not stopped. -/
def Event.Silent : Event → Prop
  | .hdlcBlock _ => False
  | .moduleRemoved _ => False
  | .sockSend _ _ => False
  | .pipeSend _ => False
  | .tcpDiscovery start => start = true
  | _ => True

/-- Nobody can tell, and no socket is read. -/
structure Silently (io io' : Io) : Prop where
  adds : Adds Event.Silent io io'
  rx : io'.rx = io.rx

instance : Std.Refl Silently := ⟨fun io => ⟨refl_of (Adds _) io, rfl⟩⟩

instance : IsTrans Io Silently :=
  ⟨fun _ _ _ h h' => ⟨trans_of (Adds _) h.adds h'.adds, h'.rx.trans h.rx⟩⟩

lemma Silently.logged (io : Io) {tr : List Event} (h : ∀ e ∈ tr, e.Silent) :
    Silently io (io.logged tr) :=
  ⟨.logged io h, rfl⟩

/-- Nobody can tell, unless `pipe_send` writes to a socket that is not the pipe's. -/
def Event.SilentOrPipe (e : Event) : Prop := e.Silent ∨ ∃ fd, e = .pipeSend fd

/-- Every stream is as it was, or its descriptor has been given to a new socket. -/
def StreamsKept (io io' : Io) : Prop :=
  ∃ tr, io'.trace = io.trace ++ tr ∧
    ∀ fd, io'.rx fd = io.rx fd ∨ .sockOpen fd ∈ tr ∧ io'.rx fd = []

instance : Std.Refl StreamsKept := ⟨fun io => ⟨[], by simp, fun _ => Or.inl rfl⟩⟩

instance : IsTrans Io StreamsKept where
  trans := by
    rintro a b c ⟨tr, hb, hrx⟩ ⟨tr', hc, hrx'⟩
    refine ⟨tr ++ tr', by rw [hc, hb, List.append_assoc], fun fd => ?_⟩
    rcases hrx' fd with hsame | ⟨hopen, hnil⟩
    · rw [hsame]
      exact (hrx fd).imp_right fun h => ⟨List.mem_append_left _ h.1, h.2⟩
    · exact Or.inr ⟨List.mem_append_right _ hopen, hnil⟩

lemma StreamsKept.of_rx {io io' : Io} {P : Event → Prop} (h : Adds P io io')
    (hrx : io'.rx = io.rx) : StreamsKept io io' := by
  obtain ⟨tr, htrace, -⟩ := h
  exact ⟨tr, htrace, fun fd => Or.inl (by rw [hrx])⟩

/-- Nobody can tell, and no socket is read, but some may be opened. -/
structure Opens (io io' : Io) : Prop where
  adds : Adds Event.SilentOrPipe io io'
  streams : StreamsKept io io'

instance : Std.Refl Opens := ⟨fun io => ⟨refl_of (Adds _) io, refl_of StreamsKept io⟩⟩

instance : IsTrans Io Opens :=
  ⟨fun _ _ _ h h' => ⟨trans_of (Adds _) h.adds h'.adds, trans_of StreamsKept h.streams h'.streams⟩⟩

lemma Silently.opens {io io' : Io} (h : Silently io io') : Opens io io' := by
  refine ⟨?_, .of_rx h.adds h.rx⟩
  obtain ⟨tr, htrace, htr⟩ := h.adds
  exact ⟨tr, htrace, fun e he => Or.inl (htr e he)⟩

lemma silently_emit {e : Event} (he : e.Silent) : Respects Silently (emit e) := by
  intro io u io' h
  obtain ⟨-, rfl⟩ := (Ends.emit e io).unique h
  exact .logged io (by simpa using he)

lemma silently_kHeapAlloc (size : ℕ) : Respects Silently (kHeapAlloc env size) := by
  intro io r io' h
  rcases kHeapAlloc_ends env h with ⟨-, rfl⟩ | ⟨-, rfl⟩
  · exact ⟨⟨[], rfl, by simp⟩, rfl⟩
  · exact ⟨⟨[.alloc io.heapCalls], rfl, by simp [Event.Silent]⟩, rfl⟩

lemma silently_gbMessageAlloc (payloadLen : ℕ) (messageType : U8) (operationId : U16)
    (status : U8) :
    Respects Silently (gbMessageAlloc env payloadLen messageType operationId status) := by
  refine (silently_kHeapAlloc env _).bind fun blk => ?_
  cases blk with
  | none => exact respects_pure _
  | some blk => exact respects_ite (respects_throw _) (respects_pure _)

lemma silently_fillPayload (msg : GbMessage) (src : List U8) :
    Respects Silently (fillPayload msg src) :=
  respects_ite (respects_throw _) (respects_pure _)

lemma silently_greybusFrameMsg (buffer : List U8) (n : ℕ) :
    Respects Silently (greybusFrameMsg env buffer n) := by
  refine respects_ite (respects_throw _) (respects_ite (respects_pure _) ?_)
  refine respects_ite (respects_throw _)
    ((silently_gbMessageAlloc env _ _ _ _).bind fun msg => ?_)
  cases msg with
  | none => exact respects_pure _
  | some msg =>
      exact respects_ite (respects_throw _)
        ((silently_fillPayload msg _).bind fun _ => respects_pure _)

/-! ### Off a socket -/

/-- All bytes a socket is to deliver, past every failure. -/
def allBytes : List RxChunk → List U8
  | [] => []
  | .data b bs :: rest => b :: bs ++ allBytes rest
  | .closed :: rest => allBytes rest
  | .error :: rest => allBytes rest

lemma allBytes_append (l l' : List RxChunk) : allBytes (l ++ l') = allBytes l ++ allBytes l' := by
  induction l with
  | nil => rfl
  | cons chunk l ih => cases chunk <;> simp [allBytes, ih]

lemma allBytes_leftover (bs : List U8) (rest : List RxChunk) :
    allBytes (leftover bs rest) = bs ++ allBytes rest := by
  cases bs with
  | nil => rfl
  | cons b bs => rfl

/-- A socket is read: nobody can tell, and the bytes come off its stream. -/
structure ReadsOff (fd : ℤ) (io io' : Io) (bs : List U8) : Prop where
  adds : Adds Event.Silent io io'
  others : ∀ fd' ≠ fd, io'.rx fd' = io.rx fd'
  stream : allBytes (io.rx fd) = bs ++ allBytes (io'.rx fd)

lemma ReadsOff.of_silently {fd : ℤ} {io io' : Io} (h : Silently io io') : ReadsOff fd io io' [] :=
  ⟨h.adds, fun _ _ => by rw [h.rx], by rw [h.rx, List.nil_append]⟩

lemma ReadsOff.trans {fd : ℤ} {a b c : Io} {bs bs' : List U8} (h : ReadsOff fd a b bs)
    (h' : ReadsOff fd b c bs') : ReadsOff fd a c (bs ++ bs') :=
  ⟨trans_of (Adds _) h.adds h'.adds, fun fd' hne => (h'.others fd' hne).trans (h.others fd' hne),
    by rw [h.stream, h'.stream, List.append_assoc]⟩

lemma ReadsOff.logged {fd : ℤ} {io io' : Io} {bs : List U8} (h : ReadsOff fd io io' bs)
    {tr : List Event} (htr : ∀ e ∈ tr, e.Silent) : ReadsOff fd io (io'.logged tr) bs := by
  have hall := h.trans (.of_silently (.logged io' htr))
  rwa [List.append_nil] at hall

/-- A `zsock_recv` takes off the stream what it writes, and that is nothing if it fails. -/
lemma zsockRecv_readsOff {fd : ℤ} {len : ℕ} {io io' : Io} {r : ℤ × List U8}
    (h : Ends (zsockRecv fd len) io r io') :
    ReadsOff fd io io' r.2 ∧ (r.1 ≤ 0 → r.2 = []) := by
  rcases ends_zsockRecv.mp h with ⟨-, rfl, rfl⟩ | ⟨-, left, hrecvs, rfl⟩
  · exact ⟨.of_silently (refl_of Silently io'), fun _ => rfl⟩
  have hstream : allBytes (io.rx fd) = r.2 ++ allBytes left ∧ (r.1 ≤ 0 → r.2 = []) := by
    generalize io.rx fd = rx at hrecvs
    cases hrecvs with
    | data b bs rest =>
        rw [allBytes_leftover, ← List.append_assoc, List.take_append_drop]
        refine ⟨rfl, fun hle => List.length_eq_zero_iff.mp (Int.ofNat_eq_zero.mp ?_)⟩
        exact le_antisymm hle (Int.natCast_nonneg _)
    | closed rest => exact ⟨rfl, fun _ => rfl⟩
    | error => exact ⟨rfl, fun _ => rfl⟩
  refine ⟨⟨.of_trace_eq rfl, fun fd' hne => Function.update_of_ne hne _ _, ?_⟩, hstream.2⟩
  rw [Io.readFrom_rx]
  exact hstream.1

/-- The bytes a `read_data` has written to its buffer, short or not, are those it has read. -/
lemma readDataLoop_readsOff {fd : ℤ} {room rounds left : ℕ} {received : List U8} {io io' : Io}
    {r : ℤ × List U8} (h : Ends (readDataLoop fd room rounds left received) io r io') :
    ∃ bs, r.2 = received ++ bs ∧ ReadsOff fd io io' bs := by
  have hdone : ∀ {n : ℤ} {received : List U8} {io : Io},
      Ends (pure (n, received) : IoM (ℤ × List U8)) io r io' →
        ∃ bs, r.2 = received ++ bs ∧ ReadsOff fd io io' bs := by
    intro n received io h
    obtain ⟨rfl, rfl⟩ := ends_pure.mp h
    exact ⟨[], (List.append_nil _).symm, .of_silently (refl_of Silently io)⟩
  induction rounds generalizing left received io with
  | zero => exact hdone h
  | succ rounds ih =>
      rcases ends_ite.mp h with ⟨-, h⟩ | ⟨-, h⟩
      · exact hdone h
      obtain ⟨c, io₁, h₁, h⟩ := ends_bind.mp h
      obtain ⟨hread, hfail⟩ := zsockRecv_readsOff h₁
      rcases ends_ite.mp h with ⟨hc, h⟩ | ⟨-, h⟩
      · rw [hfail hc] at hread
        obtain ⟨bs, hr, hrest⟩ := hdone h
        exact ⟨bs, hr, hread.trans hrest⟩
      rcases ends_ite.mp h with ⟨-, h⟩ | ⟨-, h⟩
      · exact (ends_throw.mp h).elim
      · obtain ⟨bs, hr, hrest⟩ := ih h
        exact ⟨c.2 ++ bs, by rw [hr, List.append_assoc], hread.trans hrest⟩

lemma readData_readsOff {fd : ℤ} {room len : ℕ} {io io' : Io} {r : ℤ × List U8}
    (h : Ends (readData fd room len) io r io') : ReadsOff fd io io' r.2 := by
  obtain ⟨bs, hr, hread⟩ := readDataLoop_readsOff h
  rwa [hr, List.nil_append]

/-- What a receive has read off its socket when it returns a message: the message, in full,
or what there is of a cut one. -/
structure ReadsMessage (fd : ℤ) (io io' : Io) (cport : U16) (msg : GbMessage) : Prop where
  frame : ∃ hdr, msg.header.fields = hdr.fields ∧
    (hdr.size.toNat = msg.payload.length + 8 ∨ msg.Cut) ∧
    ReadsOff fd io io' (greybusFrame cport hdr msg.payload)
  received : ∃ tr, io'.trace = io.trace ++ tr ++ [.received fd (.full cport msg)] ∧
    ∀ e ∈ tr, e.Silent

lemma shortRead_readsOff {fd ret : ℤ} {io₀ io io' : Io} {bs : List U8}
    {r : Option (U16 × GbMessage) × Bool} (hread : ReadsOff fd io₀ io bs)
    (h : Ends (shortRead fd ret) io r io') : ReadsOff fd io₀ io' bs ∧ r.1 = none := by
  rw [shortRead, (Ends.emit _ io).bind_iff] at h
  obtain ⟨rfl, rfl⟩ := ends_pure.mp h
  exact ⟨hread.logged (by simp [Event.Silent]), rfl⟩

/-- **A receive** takes bytes off its socket: if it returns a message, those of the message. -/
lemma gbMessageReceive_readsOff {fd : ℤ} {flag flag' : Bool} {io io' : Io}
    {m : Option (U16 × GbMessage)} (h : Ends (gbMessageReceive env fd flag) io (m, flag') io') :
    (∃ bs, ReadsOff fd io io' bs) ∧
      ∀ cport msg, m = some (cport, msg) → ReadsMessage fd io io' cport msg := by
  have hnothing : ∀ {bs : List U8}, ReadsOff fd io io' bs ∧ m = none →
      (∃ bs, ReadsOff fd io io' bs) ∧
        ∀ cport msg, m = some (cport, msg) → ReadsMessage fd io io' cport msg := by
    rintro bs ⟨hread, rfl⟩
    refine ⟨⟨_, hread⟩, ?_⟩
    rintro cport msg ⟨⟩
  have hsized := gbMessageReceive_tidy env h
  obtain ⟨c, io₁, h₁, h⟩ := ends_bind.mp h
  have hread₁ := readData_readsOff h₁
  rcases ends_ite.mp h with ⟨-, h⟩ | ⟨hc, h⟩
  · exact hnothing (shortRead_readsOff hread₁ h)
  obtain ⟨hd, io₂, h₂, h⟩ := ends_bind.mp h
  have hread₂ := hread₁.trans (readData_readsOff h₂)
  rcases ends_ite.mp h with ⟨-, h⟩ | ⟨hh, h⟩
  · exact hnothing (shortRead_readsOff hread₂ h)
  obtain ⟨-, hclen, -⟩ := (readData_stream h₁).2 (not_not.mp hc)
  obtain ⟨-, hhlen, -⟩ := (readData_stream h₂).2 (not_not.mp hh)
  obtain ⟨msg, io₃, h₃, h⟩ := ends_bind.mp h
  have hread₃ := hread₂.trans (.of_silently (silently_gbMessageAlloc env _ _ _ _ h₃))
  rcases gbMessageAlloc_hdr_ends env h₃ with ⟨rfl, rfl⟩ | ⟨h6, -, rfl, rfl⟩
  · dsimp only at h
    rw [(Ends.emit _ _).bind_iff] at h
    obtain ⟨hret, rfl⟩ := ends_pure.mp h
    exact hnothing ⟨hread₃.logged (by simp [Event.Silent]), (Prod.mk.inj hret).1.symm⟩
  dsimp only at h
  rw [receivePayload, hdrMessage_payloadLen, hdrMessage_payload_length] at h
  obtain ⟨p, io₄, h₄, h⟩ := ends_bind.mp h
  have hread₄ := hread₃.trans (readData_readsOff h₄)
  rcases ends_ite.mp h with ⟨-, h⟩ | ⟨hp, h⟩
  · rw [gbMessageDealloc, (Ends.emit _ _).bind_iff] at h
    exact hnothing (shortRead_readsOff (hread₄.logged (by simp [Event.Silent])) h)
  -- the message, and what it was read from
  rw [(Ends.emit _ _).bind_iff] at h
  obtain ⟨hret, rfl⟩ := ends_pure.mp h
  obtain ⟨rfl, -⟩ := Prod.mk.inj hret
  refine ⟨⟨_, hread₄.logged (by simp [Event.Silent])⟩, ?_⟩
  rintro cport msg ⟨⟩
  refine ⟨⟨GbOperationMsgHdr.ofBytes hd.2, hdrMessage_fields _, ?_, ?_⟩, ?_⟩
  · rcases hsized with ⟨hnone, -⟩ | ⟨cport', msg', hdr, hr, -, hfields, -, hwhole | ⟨hnil, hcut⟩, -⟩
    · cases hnone
    · obtain ⟨rfl, rfl⟩ := Prod.mk.inj (Option.some.inj (Prod.mk.inj hr).1)
      refine Or.inl (Eq.trans (congrArg BitVec.toNat ?_) hwhole.size)
      have hheader : (hdrMessage env (GbOperationMsgHdr.ofBytes hd.2) io₂.heapCalls).header.fields =
          (GbOperationMsgHdr.ofBytes hd.2).fields := hdrMessage_fields _
      exact (Prod.mk.inj (hheader.symm.trans hfields)).1
    · obtain ⟨rfl, rfl⟩ := Prod.mk.inj (Option.some.inj (Prod.mk.inj hr).1)
      exact Or.inr (hcut.cut hfields hnil)
  · have hbytes : greybusFrame (ofLe16 (c.2.getD 0 0) (c.2.getD 1 0))
        (GbOperationMsgHdr.ofBytes hd.2) p.2 = c.2 ++ hd.2 ++ [] ++ p.2 := by
      rw [greybusFrame, le16_getD hclen, bytes_ofBytes hhlen, List.append_nil]
    have hdrop : (hdrMessage env (GbOperationMsgHdr.ofBytes hd.2) io₂.heapCalls).payload.drop
        p.2.length = [] :=
      List.drop_eq_nil_of_le (by
        rw [hdrMessage_payload_length]
        exact le_length_of_readData h₄ (not_not.mp hp))
    dsimp only
    rw [hdrop, List.append_nil, hbytes]
    exact hread₄.logged (by simp [Event.Silent])
  · obtain ⟨tr, htrace, htr⟩ := hread₄.adds
    exact ⟨tr, by rw [Io.logged_trace, htrace], htr⟩

/-! ### Nothing is read -/

/-- No socket is read. -/
def SameRx (s s' : Fw cfg) : Prop := s'.io.rx = s.io.rx

instance : Std.Refl (@SameRx cfg) := ⟨fun _ => rfl⟩

instance : IsTrans (Fw cfg) SameRx := ⟨fun _ _ _ h h' => Eq.trans h' h⟩

lemma sameRx_liftIo {α : Type} {m : IoM α} (h : Respects Silently m) :
    Respects SameRx (liftIo m : FwM cfg α) := by
  intro s a s' hend
  obtain ⟨io, hm, rfl⟩ := ends_liftIo.mp hend
  exact (h hm).rx

lemma sameRx_emit (e : Event) : Respects SameRx (liftIo (emit e) : FwM cfg Unit) := by
  intro s u s' h
  obtain ⟨-, rfl⟩ := (Ends.liftIo (Ends.emit e s.io)).unique h
  rfl

lemma silently_gbMessageRequestAlloc (payload : List U8) (type : U8) :
    Respects Silently (gbMessageRequestAlloc env payload type false) := by
  have hid : Respects Silently newOperationId := fun io id io' h => by
    obtain ⟨-, rfl⟩ := ends_modifyGet.mp h
    exact ⟨.of_trace_eq rfl, rfl⟩
  refine hid.bind fun id => (silently_gbMessageAlloc env _ _ _ _).bind fun msg => ?_
  rw [memcpyPayload.eq_def]
  cases msg with
  | none => exact respects_ite (respects_pure _) (respects_throw _)
  | some msg => exact (silently_fillPayload msg payload).bind fun _ => respects_pure _

lemma sameRx_controlSendRequest (payload : List U8) (type : U8) :
    Respects SameRx (controlSendRequest env payload type : FwM cfg ℤ) := by
  refine (sameRx_liftIo (silently_gbMessageRequestAlloc env payload type)).bind fun msg => ?_
  cases msg with
  | none => exact respects_pure _
  | some msg =>
      have hsend : Respects SameRx (connectionSendToAp SVC_INF_ID 0 msg : FwM cfg ℤ) := by
        intro s ret s' h
        obtain ⟨-, -, rfl⟩ := ends_connectionSendToAp.mp h
        rfl
      exact hsend.bind fun _ => respects_ite (respects_pure _)
        ((sameRx_emit _).bind fun _ => respects_pure _)

lemma sameRx_svcSendModuleRemoved (p : Ptr) :
    Respects SameRx (svcSendModuleRemoved env p : FwM cfg ℤ) := by
  refine (sameRx_emit _).bind fun _ => ?_
  have hread : Respects SameRx (readIntf p : FwM cfg GbInterface) := fun s _ s' h => by
    obtain ⟨-, rfl⟩ := (readIntf_ends p s).unique h
    rfl
  refine hread.bind fun intf => (sameRx_controlSendRequest env _ _).bind fun ret =>
    respects_ite (respects_pure _) (Respects.bind (fun s _ s' h => ?_) fun _ => respects_pure _)
  obtain ⟨-, rfl⟩ := (nodeDestroyInterface_ends env p s).unique h
  rfl

/-! ### Acts -/

/-- The ids of the cached nodes. -/
def Core.moduleIds (c : Core cfg) : List U8 := c.nodeCache.map NodeItem.id

/-- Something the firmware does. -/
inductive Act
  /-- nobody can tell -/
  | quiet
  /-- nor can anybody tell that sockets are read, or that bytes arrive -/
  | hear
  /-- connections are created or destroyed -/
  | route
  /-- a message of the SVC or of the local node, from its cport 0 -/
  | send (intfId : U8) (msg : GbMessage)
  /-- a message that has been received in full off the socket of a node -/
  | forward (fd : ℤ) (e : NodeItem) (cport : U16) (msg : GbMessage)
  /-- a module is cached and announced -/
  | insert (id : U8)
  /-- a node has been found that is not cached -/
  | refuse
  /-- `svc_send_module_removed` -/
  | remove (inf : Ptr)
  /-- the first `n` bytes of a message from an AP cport, onto the socket of its node -/
  | write (apCport : U16) (node : Ptr) (msg : GbMessage) (n : ℕ)
  /-- discovery is stopped, and the modules are forgotten -/
  | stop

/-- The slot of an AP cport, if it has one. -/
def Core.slot? (c : Core cfg) (apCport : U16) : Option NodeApItem :=
  if h : apCport.toNat < cfg.apMaxNodes then some (c.nodeApMap ⟨apCport.toNat, h⟩) else none

/-- What an act does. -/
def actStep (s : Fw cfg) (a : Act) (s' : Fw cfg) : Prop :=
  match a with
  | .quiet => s'.core = s.core ∧ Silently s.io s'.io
  | .hear => s'.core = s.core ∧ Adds Event.Silent s.io s'.io
  | .route => s'.core.moduleIds = s.core.moduleIds ∧ Opens s.io s'.io
  | .send id msg => s'.core = s.core ∧ s'.io.rx = s.io.rx ∧
      ((nodeToApCport s.core.nodeApMap id 0).isSome → msg.FitsFrame cfg) ∧
      s'.io.trace = s.io.trace ++ sendEvents (nodeToApCport s.core.nodeApMap id 0) id 0 msg
  | .forward fd e cport msg => (∃ i, nodeCacheFindBySock s.core.nodeCache fd = some (i, e)) ∧
      ((nodeToApCport s.core.nodeApMap e.id cport).isSome → msg.FitsFrame cfg) ∧
      ∃ io, ReadsMessage fd s.io io cport msg ∧ s' = ⟨s.core, io.logged
        (sendEvents (nodeToApCport s.core.nodeApMap e.id cport) e.id cport msg)⟩
  | .insert id => s'.core.nodeApMap = s.core.nodeApMap ∧
      s'.core.moduleIds = s.core.moduleIds ++ [id] ∧ s'.io.rx = s.io.rx ∧
      ∃ msg, IsRequest msg ([id, 1] ++ le16 0) GB_SVC_TYPE_MODULE_INSERTED ∧
        s'.io.trace = s.io.trace ++ requestEvents s.core.svcLink msg
  | .refuse => s'.core.nodeApMap = s.core.nodeApMap ∧ s'.core.moduleIds = s.core.moduleIds ∧
      Silently s.io s'.io
  | .remove p => s'.core = s.core.afterReport env p ∧ s'.io.rx = s.io.rx ∧
      ∃ tr, Reports s.core p tr ∧ s'.io.trace = s.io.trace ++ tr
  | .write apCport q msg n => s'.core = s.core ∧ s'.io.rx = s.io.rx ∧
      ∃ slot tr, s.core.slot? apCport = some slot ∧ slot.nodeIntf = some (.node q) ∧
        SendsOn (s.core.sockOf q) tr ∧
        sentOn (s.core.sockOf q) tr = (nodeFrame slot.nodeCport msg).take n ∧
        s'.io.trace = s.io.trace ++ tr
  | .stop => s'.core.moduleIds = [] ∧ s'.io.rx = s.io.rx ∧
      ∃ tr, (∀ ev ∈ tr, ev.Silent) ∧ s'.io.trace = s.io.trace ++ .tcpDiscovery false :: tr

/-- Acts of some kind, and such that nobody can tell, one after the other. -/
def Acts (P : Act → Prop) (s s' : Fw cfg) : Prop :=
  ∃ l, Run (actStep env) s l s' ∧ ∀ t ∈ l, t.label = .quiet ∨ P t.label

instance (P : Act → Prop) : Std.Refl (@Acts cfg env P) := ⟨fun _ => ⟨[], .nil, by simp⟩⟩

instance (P : Act → Prop) : IsTrans (Fw cfg) (Acts env P) where
  trans := by
    rintro a b c ⟨l, hrun, hl⟩ ⟨l', hrun', hl'⟩
    refine ⟨l ++ l', hrun.append hrun', fun t ht => ?_⟩
    rcases List.mem_append.mp ht with ht | ht
    · exact hl t ht
    · exact hl' t ht

section acts

variable {env} {P Q : Act → Prop} {s s' : Fw cfg} {α : Type}

lemma Acts.single (a : Act) (h : actStep env s a s') (ha : P a) : Acts env P s s' :=
  ⟨_, .single h, by simp [ha]⟩

lemma Acts.quiet (h : actStep env s .quiet s') : Acts env P s s' := ⟨_, .single h, by simp⟩

lemma Acts.mono (h : Acts env P s s') (hPQ : ∀ a, P a → Q a) : Acts env Q s s' := by
  obtain ⟨l, hrun, hl⟩ := h
  exact ⟨l, hrun, fun t ht => (hl t ht).imp_right (hPQ _)⟩

/-- A program over the devices that says nothing. -/
lemma acts_liftIo {m : IoM α} (h : Respects Silently m) :
    Respects (Acts env P) (liftIo m : FwM cfg α) := by
  intro s a s' hend
  obtain ⟨io, hm, rfl⟩ := ends_liftIo.mp hend
  exact .quiet ⟨rfl, h hm⟩

lemma acts_emit {e : Event} (he : e.Silent) :
    Respects (Acts env P) (liftIo (emit e) : FwM cfg Unit) :=
  acts_liftIo (silently_emit he)

lemma acts_dealloc (msg : GbMessage) :
    Respects (Acts env P) (liftIo (gbMessageDealloc msg) : FwM cfg Unit) :=
  acts_emit (by trivial)

lemma acts_getCore : Respects (Acts env P) (getCore : FwM cfg (Core cfg)) := by
  intro s c s' h
  obtain ⟨-, rfl⟩ := ends_getCore.mp h
  exact refl_of (Acts env P) s

/-- A message is on its way to the AP. -/
lemma acts_connectionSendToAp (id : U8) (msg : GbMessage) (hP : P (.send id msg)) :
    Respects (Acts env P) (connectionSendToAp id 0 msg : FwM cfg ℤ) := by
  intro s ret s' h
  obtain ⟨hfits, -, rfl⟩ := ends_connectionSendToAp.mp h
  exact .single (.send id msg) ⟨rfl, rfl, hfits, rfl⟩ hP

/-! ### What is sent to the AP -/

/-- A message is a response to another. -/
structure IsResponse (req resp : GbMessage) : Prop where
  type : resp.header.type = GB_OP_RESPONSE ||| gbMessageType req
  operationId : resp.header.operationId = req.header.operationId

/-- A response is sent, if there is a block for it. -/
lemma acts_respond (id : U8) (req : GbMessage) {payload : List U8} (status : U8)
    (hlen : payload.length + 8 < 2 ^ 32)
    (hP : ∀ resp, IsResponse req resp → P (.send id resp)) :
    Respects (Acts env P) (respond env id 0 req payload status : FwM cfg Unit) := by
  intro s u s' h
  obtain ⟨r, s₁, h₁, h⟩ := ends_bind.mp h
  obtain ⟨io₁, halloc, rfl⟩ := ends_liftIo.mp h₁
  have hquiet : Acts env P s ⟨s.core, io₁⟩ := by
    rcases alloc_memcpy_ends env hlen halloc with ⟨-, -, rfl⟩ | ⟨-, rfl⟩
    · exact .quiet ⟨rfl, .of_trace_eq (List.append_nil _), rfl⟩
    · exact .quiet ⟨rfl, ⟨_, rfl, by simp [Event.Silent]⟩, rfl⟩
  cases r with
  | none =>
      obtain ⟨-, rfl⟩ := ends_pure.mp h
      exact hquiet
  | some resp =>
      have hresp : IsResponse req resp := by
        rcases alloc_memcpy_ends env hlen halloc with ⟨hnone, -⟩ | ⟨hsome, -⟩
        · cases hnone
        · obtain rfl := Option.some.inj hsome
          exact ⟨rfl, rfl⟩
      exact trans_of (Acts env P) hquiet
        ((acts_connectionSendToAp id resp (hP resp hresp)).discard h)

/-- A request of the SVC is sent. -/
lemma acts_controlSendRequest {payload : List U8} {type : U8} (hne : payload ≠ [])
    (hlen : payload.length + 8 < 2 ^ 16)
    (hP : ∀ msg, IsRequest msg payload type → P (.send SVC_INF_ID msg)) :
    Respects (Acts env P) (controlSendRequest env payload type : FwM cfg ℤ) := by
  intro s ret s' h
  obtain ⟨m, s₁, h₁, h⟩ := ends_bind.mp h
  obtain ⟨io₁, halloc, rfl⟩ := ends_liftIo.mp h₁
  obtain ⟨msg, rfl, hmsg, htrace⟩ := gbMessageRequestAlloc_ends env hne hlen halloc
  have hquiet : Acts env P s ⟨s.core, io₁⟩ :=
    .quiet ⟨rfl, silently_gbMessageRequestAlloc env payload type halloc⟩
  have hrest : Respects (Acts env P) (do
      let ret ← connectionSendToAp SVC_INF_ID 0 msg
      if ret < 0 then return ret
      else do
        liftIo (emit (.msgRead msg.blk))
        return ((env.freedOperationId msg.blk).toNat : ℤ) : FwM cfg ℤ) :=
    (acts_connectionSendToAp _ _ (hP msg hmsg)).bind fun _ =>
      respects_ite (respects_pure _) ((acts_emit (by trivial)).bind fun _ => respects_pure _)
  exact trans_of (Acts env P) hquiet (hrest h)

/-! ### Modules -/

/-- A removal is one act. -/
lemma acts_svcSendModuleRemoved (p : Ptr) (hP : P (.remove p)) :
    Respects (Acts env P) (svcSendModuleRemoved env p : FwM cfg ℤ) := by
  intro s ret s' h
  have hrx : s'.io.rx = s.io.rx := sameRx_svcSendModuleRemoved env p h
  obtain ⟨hcore, hreports⟩ := svcSendModuleRemoved_ends env h
  exact .single (.remove p) ⟨hcore, hrx, hreports⟩ hP

lemma acts_svcSendModuleRemovedBySock (sock : ℤ) (hP : ∀ p, P (.remove p)) :
    Respects (Acts env P) (svcSendModuleRemovedBySock env sock : FwM cfg Unit) := by
  refine acts_getCore.bind fun c => ?_
  cases nodeCacheFindBySock c.nodeCache sock with
  | none => exact respects_pure _
  | some e => exact (acts_svcSendModuleRemoved _ (hP _)).discard

/-- What is created is announced, by the id it is cached with. -/
lemma acts_nodeFilterOne (addr : BitVec 128) (hP : ∀ id, P (.insert id)) (hrefuse : P .refuse) :
    Respects (Acts env P) (nodeFilterOne env addr : FwM cfg Unit) := by
  intro s u s' h
  rw [nodeFilterOne, (Ends.getCore s).bind_iff] at h
  -- an address in the cache adds no node
  cases hfind : nodeCacheFindByAddr s.core.nodeCache addr with
  | some e =>
      rw [hfind] at h
      obtain ⟨-, rfl⟩ := ends_pure.mp h
      exact refl_of (Acts env P) s
  | none =>
      rw [hfind] at h
      obtain ⟨r, s₁, h₁, h⟩ := ends_bind.mp h
      obtain ⟨rfl, rfl⟩ := ends_modifyGetCore.mp h₁
      -- a node that is refused leaves ids and routes as they were
      have hnew : (s.core.nodeCreateInterface env addr).2.nodeApMap = s.core.nodeApMap →
          (s.core.nodeCreateInterface env addr).2.nodeCache = s.core.nodeCache →
          Acts env P s ⟨(s.core.nodeCreateInterface env addr).2, s.io⟩ := fun hmap hcache =>
        .single .refuse ⟨hmap, congrArg (List.map NodeItem.id) hcache, refl_of Silently _⟩ hrefuse
      rcases nodeCreateInterface_spec env s.core addr with
        ⟨hnone, hsame⟩ | ⟨-, inf, ctrlData, hout, ⟨hnone, -, hcache⟩ | ⟨hsome, -, hcache⟩⟩
      · rw [hnone] at h
        obtain ⟨-, rfl⟩ := ends_pure.mp h
        exact hnew hsame.nodeApMap hsame.nodeCache
      · rw [hnone] at h
        obtain ⟨-, rfl⟩ := ends_pure.mp h
        exact hnew hout.nodeApMap hcache
      · rw [hsome] at h
        dsimp only at h
        rw [(Ends.getCore _).bind_iff] at h
        obtain ⟨ret, h⟩ := ends_discard.mp h
        have hcore := respects_controlSendRequest env _ _ h
        have hrx := sameRx_controlSendRequest env _ _ h
        obtain ⟨-, msg, hmsg, htrace⟩ := controlSendRequest_ends env (by simp) (by simp) h
        -- it is announced by the id its block holds, the one it is cached with
        have hid : ((s.core.nodeCreateInterface env addr).2.intfMem inf).id = s.core.nextId := by
          rw [hout.intfMem, Function.update_self]
        have hlink : (s.core.nodeCreateInterface env addr).2.svcLink = s.core.svcLink := by
          rw [Core.svcLink, hout.nodeApMap, Core.svcLink]
        dsimp only at hcore htrace hmsg
        rw [hid] at hmsg
        rw [hlink] at htrace
        refine .single (.insert s.core.nextId) ⟨?_, ?_, hrx, msg, hmsg, htrace⟩ (hP _)
        · rw [hcore]
          exact hout.nodeApMap
        · rw [hcore, Core.moduleIds, hcache, List.map_append]
          rfl

lemma acts_nodeFilter (active : List (BitVec 128)) (hP : ∀ id, P (.insert id))
    (hrefuse : P .refuse) :
    Respects (Acts env P) (nodeFilter env active : FwM cfg Unit) := by
  induction active with
  | nil => exact respects_pure _
  | cons addr active ih => exact (acts_nodeFilterOne addr hP hrefuse).bind fun _ => ih

end acts

end Cc1352Greybus
