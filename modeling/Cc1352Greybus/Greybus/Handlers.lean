import Cc1352Greybus.Greybus.Connection

/-!
What the SVC and the local node do with a message from the AP: the handlers of
`src/svc.c` and `src/local_node.c`.

* `respond`: a response, built for a request and sent from the interface it came
  to.
* `gbHandleMsg`, `svcInfWrite`: the SVC.
* `controlProtocolHandle`, `localIntfWrite`: the local node.
-/

namespace Cc1352Greybus

open Effects

variable {cfg : Config} (env : Env)

/-- A byte of a message's payload, read through the structure of its type. -/
def payloadByte (msg : GbMessage) (i : ℕ) : FwM cfg U8 :=
  match msg.payload[i]? with
  | none => throw .outOfBounds
  | some b => return b

/-- A 16-bit field of a message's payload. -/
def payloadLe16 (msg : GbMessage) (i : ℕ) : FwM cfg U16 := do
  let l ← payloadByte msg i
  let h ← payloadByte msg (i + 1)
  return ofLe16 l h

/-- A response goes to the AP from the interface and cport its request came to. -/
def respond (intfId : U8) (cport : U16) (msg : GbMessage) (payload : List U8) (status : U8) :
    FwM cfg Unit := do
  match ← liftIo (gbMessageResponseAlloc env payload
    (gbMessageType msg) msg.header.operationId status) with
  | none => return ()
  | some resp => discard (connectionSendToAp intfId cport resp)

/-! ### `svc.c` -/

/-- `GB_SVC_TYPE_INTF_DEVICE_ID` -/
def GB_SVC_TYPE_INTF_DEVICE_ID : U8 := 0x03
/-- `GB_SVC_TYPE_CONN_CREATE` -/
def GB_SVC_TYPE_CONN_CREATE : U8 := 0x07
/-- `GB_SVC_TYPE_CONN_DESTROY` -/
def GB_SVC_TYPE_CONN_DESTROY : U8 := 0x08
/-- `GB_SVC_TYPE_DME_PEER_GET` -/
def GB_SVC_TYPE_DME_PEER_GET : U8 := 0x09
/-- `GB_SVC_TYPE_DME_PEER_SET` -/
def GB_SVC_TYPE_DME_PEER_SET : U8 := 0x0a
/-- `GB_SVC_TYPE_ROUTE_CREATE` -/
def GB_SVC_TYPE_ROUTE_CREATE : U8 := 0x0b
/-- `GB_SVC_TYPE_ROUTE_DESTROY` -/
def GB_SVC_TYPE_ROUTE_DESTROY : U8 := 0x0c
/-- `GB_SVC_TYPE_INTF_SET_PWRM` -/
def GB_SVC_TYPE_INTF_SET_PWRM : U8 := 0x10
/-- `GB_SVC_TYPE_PING` -/
def GB_SVC_TYPE_PING : U8 := 0x13
/-- `GB_SVC_TYPE_PWRMON_RAIL_COUNT_GET` -/
def GB_SVC_TYPE_PWRMON_RAIL_COUNT_GET : U8 := 0x14
/-- `GB_SVC_TYPE_INTF_VSYS_ENABLE` -/
def GB_SVC_TYPE_INTF_VSYS_ENABLE : U8 := 0x21
/-- `GB_SVC_TYPE_INTF_VSYS_DISABLE` -/
def GB_SVC_TYPE_INTF_VSYS_DISABLE : U8 := 0x22
/-- `GB_SVC_TYPE_INTF_REFCLK_ENABLE` -/
def GB_SVC_TYPE_INTF_REFCLK_ENABLE : U8 := 0x23
/-- `GB_SVC_TYPE_INTF_REFCLK_DISABLE` -/
def GB_SVC_TYPE_INTF_REFCLK_DISABLE : U8 := 0x24
/-- `GB_SVC_TYPE_INTF_UNIPRO_ENABLE` -/
def GB_SVC_TYPE_INTF_UNIPRO_ENABLE : U8 := 0x25
/-- `GB_SVC_TYPE_INTF_UNIPRO_DISABLE` -/
def GB_SVC_TYPE_INTF_UNIPRO_DISABLE : U8 := 0x26
/-- `GB_SVC_TYPE_INTF_ACTIVATE` -/
def GB_SVC_TYPE_INTF_ACTIVATE : U8 := 0x27
/-- `GB_SVC_TYPE_INTF_RESUME` -/
def GB_SVC_TYPE_INTF_RESUME : U8 := 0x28

/-- `GB_SVC_OP_SUCCESS` -/
def GB_SVC_OP_SUCCESS : U8 := 0x00
/-- `GB_SVC_OP_UNKNOWN_ERROR` -/
def GB_SVC_OP_UNKNOWN_ERROR : U8 := 0x01
/-- `GB_SVC_UNIPRO_HIBERNATE_MODE` -/
def GB_SVC_UNIPRO_HIBERNATE_MODE : U8 := 0x11
/-- `GB_SVC_SETPWRM_PWR_OK` -/
def GB_SVC_SETPWRM_PWR_OK : U8 := 0x00
/-- `GB_SVC_SETPWRM_PWR_LOCAL` -/
def GB_SVC_SETPWRM_PWR_LOCAL : U8 := 0x01
/-- `GB_SVC_INTF_VSYS_OK` -/
def GB_SVC_INTF_VSYS_OK : U8 := 0x00
/-- `GB_SVC_INTF_REFCLK_OK` -/
def GB_SVC_INTF_REFCLK_OK : U8 := 0x00
/-- `GB_SVC_INTF_UNIPRO_OK` -/
def GB_SVC_INTF_UNIPRO_OK : U8 := 0x00
/-- `GB_SVC_INTF_TYPE_GREYBUS` -/
def GB_SVC_INTF_TYPE_GREYBUS : U8 := 0x03

/-- `svc_response_helper` -/
def svcResponseHelper (msg : GbMessage) (payload : List U8) (status : U8) : FwM cfg Unit :=
  respond env SVC_INF_ID 0 msg payload status

/-- `svc_version_response_handler`; the version is only logged, once it has been
read. -/
def svcVersionResponseHandler (msg : GbMessage) : FwM cfg Unit := do
  discard (payloadByte msg 0)
  discard (payloadByte msg 1)
  discard (svcSendHello env)

/-- `svc_empty_request_handler` -/
def svcEmptyRequestHandler (msg : GbMessage) : FwM cfg Unit :=
  svcResponseHelper env msg [] GB_SVC_OP_SUCCESS

/-- `svc_pwrm_get_rail_count_handler` -/
def svcPwrmGetRailCountHandler (msg : GbMessage) : FwM cfg Unit :=
  svcResponseHelper env msg [0] GB_SVC_OP_SUCCESS

/-- `svc_intf_set_pwrm_handler` -/
def svcIntfSetPwrmHandler (msg : GbMessage) : FwM cfg Unit := do
  let txMode ← payloadByte msg 2
  let rxMode ← payloadByte msg 7
  let resultCode :=
    if txMode = GB_SVC_UNIPRO_HIBERNATE_MODE ∧ rxMode = GB_SVC_UNIPRO_HIBERNATE_MODE
    then GB_SVC_SETPWRM_PWR_OK else GB_SVC_SETPWRM_PWR_LOCAL
  svcResponseHelper env msg [resultCode] GB_SVC_OP_SUCCESS

/-- `svc_intf_vsys_enable_disable_handler` -/
def svcIntfVsysEnableDisableHandler (msg : GbMessage) : FwM cfg Unit :=
  svcResponseHelper env msg [GB_SVC_INTF_VSYS_OK] GB_SVC_OP_SUCCESS

/-- `svc_interface_refclk_enable_disable_handler` -/
def svcInterfaceRefclkEnableDisableHandler (msg : GbMessage) : FwM cfg Unit :=
  svcResponseHelper env msg [GB_SVC_INTF_REFCLK_OK] GB_SVC_OP_SUCCESS

/-- `svc_interface_unipro_enable_disable_handler` -/
def svcInterfaceUniproEnableDisableHandler (msg : GbMessage) : FwM cfg Unit :=
  svcResponseHelper env msg [GB_SVC_INTF_UNIPRO_OK] GB_SVC_OP_SUCCESS

/-- `svc_interface_activate_handler` -/
def svcInterfaceActivateHandler (msg : GbMessage) : FwM cfg Unit :=
  svcResponseHelper env msg [GB_SVC_OP_SUCCESS, GB_SVC_INTF_TYPE_GREYBUS] GB_SVC_OP_SUCCESS

/-- `svc_dme_peer_get_handler`: a result code of zero and the attribute value
`0x0126`. -/
def svcDmePeerGetHandler (msg : GbMessage) : FwM cfg Unit :=
  svcResponseHelper env msg (le16 0 ++ (le16 0x0126 ++ le16 0)) GB_SVC_OP_SUCCESS

/-- `svc_dme_peer_set_handler` -/
def svcDmePeerSetHandler (msg : GbMessage) : FwM cfg Unit :=
  svcResponseHelper env msg (le16 0) GB_SVC_OP_SUCCESS

/-- `svc_connection_create_handler` -/
def svcConnectionCreateHandler (msg : GbMessage) : FwM cfg Unit := do
  let intf1Id ← payloadByte msg 0
  let intf2Id ← payloadByte msg 3
  let cport1Id ← payloadLe16 msg 1
  let cport2Id ← payloadLe16 msg 4
  if intf1Id = intf2Id ∧ cport1Id = cport2Id then
    svcResponseHelper env msg [] GB_SVC_OP_UNKNOWN_ERROR
  else do
    let ret ← connectionCreate env intf1Id cport1Id intf2Id cport2Id
    svcResponseHelper env msg [] (if ret < 0 then GB_SVC_OP_UNKNOWN_ERROR else GB_SVC_OP_SUCCESS)

/-- `svc_connection_destroy_handler` -/
def svcConnectionDestroyHandler (msg : GbMessage) : FwM cfg Unit := do
  let intf1Id ← payloadByte msg 0
  let cport1Id ← payloadLe16 msg 1
  let intf2Id ← payloadByte msg 3
  let cport2Id ← payloadLe16 msg 4
  let ret ← connectionDestroy intf1Id cport1Id intf2Id cport2Id
  svcResponseHelper env msg [] (if ret < 0 then GB_SVC_OP_UNKNOWN_ERROR else GB_SVC_OP_SUCCESS)

/-- `svc_interface_resume_handler` -/
def svcInterfaceResumeHandler (msg : GbMessage) : FwM cfg Unit :=
  svcResponseHelper env msg [GB_SVC_OP_SUCCESS] GB_SVC_OP_SUCCESS

/-- `gb_handle_msg`. The responses to `SVC_HELLO`, `MODULE_INSERTED` and
`MODULE_REMOVED` are only logged, as is a type that is not known. -/
def gbHandleMsg (msg : GbMessage) : FwM cfg Unit :=
  let type := gbMessageType msg
  if type = GB_SVC_TYPE_INTF_DEVICE_ID ∨ type = GB_SVC_TYPE_ROUTE_CREATE ∨
      type = GB_SVC_TYPE_ROUTE_DESTROY ∨ type = GB_SVC_TYPE_PING then
    svcEmptyRequestHandler env msg
  else if type = GB_SVC_TYPE_CONN_CREATE then svcConnectionCreateHandler env msg
  else if type = GB_SVC_TYPE_CONN_DESTROY then svcConnectionDestroyHandler env msg
  else if type = GB_SVC_TYPE_DME_PEER_GET then svcDmePeerGetHandler env msg
  else if type = GB_SVC_TYPE_DME_PEER_SET then svcDmePeerSetHandler env msg
  else if type = GB_SVC_TYPE_INTF_SET_PWRM then svcIntfSetPwrmHandler env msg
  else if type = GB_SVC_TYPE_PWRMON_RAIL_COUNT_GET then svcPwrmGetRailCountHandler env msg
  else if type = GB_SVC_TYPE_INTF_VSYS_ENABLE ∨ type = GB_SVC_TYPE_INTF_VSYS_DISABLE then
    svcIntfVsysEnableDisableHandler env msg
  else if type = GB_SVC_TYPE_INTF_REFCLK_ENABLE ∨ type = GB_SVC_TYPE_INTF_REFCLK_DISABLE then
    svcInterfaceRefclkEnableDisableHandler env msg
  else if type = GB_SVC_TYPE_INTF_UNIPRO_ENABLE ∨ type = GB_SVC_TYPE_INTF_UNIPRO_DISABLE then
    svcInterfaceUniproEnableDisableHandler env msg
  else if type = GB_SVC_TYPE_INTF_ACTIVATE then svcInterfaceActivateHandler env msg
  else if type = GB_SVC_TYPE_INTF_RESUME then svcInterfaceResumeHandler env msg
  else if type = GB_SVC_TYPE_PROTOCOL_VERSION ||| GB_OP_RESPONSE then
    svcVersionResponseHandler env msg
  else return ()

/-- `svc_inf_write`. A message for a cport it does not know is left to itself. -/
def svcInfWrite (msg : GbMessage) (cportId : U16) : FwM cfg ℤ :=
  if cportId ≠ 0 then return -1
  else do
    gbHandleMsg env msg
    liftIo (gbMessageDealloc msg)
    return 0

/-! ### `local_node.c` -/

/-- `CONTROL_PROTOCOL_CPORT` -/
def CONTROL_PROTOCOL_CPORT : U16 := 0

/-- `GB_REQUEST_TYPE_CPORT_SHUTDOWN` -/
def GB_REQUEST_TYPE_CPORT_SHUTDOWN : U8 := 0x00
/-- `GB_CONTROL_TYPE_VERSION` -/
def GB_CONTROL_TYPE_VERSION : U8 := 0x01
/-- `GB_CONTROL_TYPE_GET_MANIFEST_SIZE` -/
def GB_CONTROL_TYPE_GET_MANIFEST_SIZE : U8 := 0x03
/-- `GB_CONTROL_TYPE_GET_MANIFEST` -/
def GB_CONTROL_TYPE_GET_MANIFEST : U8 := 0x04
/-- `GB_CONTROL_TYPE_CONNECTED` -/
def GB_CONTROL_TYPE_CONNECTED : U8 := 0x05
/-- `GB_CONTROL_TYPE_DISCONNECTED` -/
def GB_CONTROL_TYPE_DISCONNECTED : U8 := 0x06
/-- `GB_CONTROL_TYPE_TIMESYNC_ENABLE` -/
def GB_CONTROL_TYPE_TIMESYNC_ENABLE : U8 := 0x07
/-- `GB_CONTROL_TYPE_TIMESYNC_DISABLE` -/
def GB_CONTROL_TYPE_TIMESYNC_DISABLE : U8 := 0x08
/-- `GB_CONTROL_TYPE_TIMESYNC_AUTHORITATIVE` -/
def GB_CONTROL_TYPE_TIMESYNC_AUTHORITATIVE : U8 := 0x09
/-- `GB_CONTROL_TYPE_DISCONNECTING` -/
def GB_CONTROL_TYPE_DISCONNECTING : U8 := 0x0c
/-- `GB_CONTROL_TYPE_INTF_HIBERNATE_ABORT` -/
def GB_CONTROL_TYPE_INTF_HIBERNATE_ABORT : U8 := 0x15

/-- `manifest` -/
def manifest : List U8 :=
  [0x3c, 0x00, 0x00, 0x01, 0x08, 0x00, 0x01, 0x00, 0x01, 0x02, 0x00, 0x00, 0x18, 0x00, 0x02,
    0x00, 0x11, 0x01, 0x42, 0x65, 0x61, 0x67, 0x6c, 0x65, 0x50, 0x6c, 0x61, 0x79, 0x20, 0x43,
    0x43, 0x31, 0x33, 0x35, 0x32, 0x00, 0x18, 0x00, 0x02, 0x00, 0x11, 0x02, 0x42, 0x65, 0x61,
    0x67, 0x6c, 0x65, 0x50, 0x6c, 0x61, 0x79, 0x20, 0x43, 0x43, 0x31, 0x33, 0x35, 0x32, 0x00]

/-- `response_helper` -/
def responseHelper (msg : GbMessage) (payload : List U8) (status : U8) (cportId : U16) :
    FwM cfg Unit :=
  respond env LOCAL_NODE_ID cportId msg payload status

/-- `control_protocol_cport_shutdown_handler` -/
def controlProtocolCportShutdownHandler (msg : GbMessage) : FwM cfg Unit :=
  responseHelper env msg [] 0 CONTROL_PROTOCOL_CPORT

/-- `control_protocol_version_handler` -/
def controlProtocolVersionHandler (msg : GbMessage) : FwM cfg Unit :=
  responseHelper env msg [0, 1] 0 CONTROL_PROTOCOL_CPORT

/-- `control_protocol_get_manifest_size_handler` -/
def controlProtocolGetManifestSizeHandler (msg : GbMessage) : FwM cfg Unit :=
  responseHelper env msg (le16 (BitVec.ofNat 16 manifest.length)) 0 CONTROL_PROTOCOL_CPORT

/-- `control_protocol_get_manifest_handler` -/
def controlProtocolGetManifestHandler (msg : GbMessage) : FwM cfg Unit :=
  responseHelper env msg manifest 0 CONTROL_PROTOCOL_CPORT

/-- `control_protocol_empty_handler` -/
def controlProtocolEmptyHandler (msg : GbMessage) : FwM cfg Unit :=
  responseHelper env msg [] 0 CONTROL_PROTOCOL_CPORT

/-- `control_protocol_handle`; a type that is not known is only logged. -/
def controlProtocolHandle (msg : GbMessage) : FwM cfg Unit :=
  let type := gbMessageType msg
  if type = GB_REQUEST_TYPE_CPORT_SHUTDOWN then controlProtocolCportShutdownHandler env msg
  else if type = GB_CONTROL_TYPE_VERSION then controlProtocolVersionHandler env msg
  else if type = GB_CONTROL_TYPE_GET_MANIFEST_SIZE then
    controlProtocolGetManifestSizeHandler env msg
  else if type = GB_CONTROL_TYPE_GET_MANIFEST then controlProtocolGetManifestHandler env msg
  else if type = GB_CONTROL_TYPE_CONNECTED ∨ type = GB_CONTROL_TYPE_DISCONNECTING ∨
      type = GB_CONTROL_TYPE_DISCONNECTED ∨ type = GB_CONTROL_TYPE_TIMESYNC_ENABLE ∨
      type = GB_CONTROL_TYPE_TIMESYNC_DISABLE ∨ type = GB_CONTROL_TYPE_TIMESYNC_AUTHORITATIVE ∨
      type = GB_CONTROL_TYPE_INTF_HIBERNATE_ABORT then
    controlProtocolEmptyHandler env msg
  else return ()

/-- `intf_write` of the local node -/
def localIntfWrite (msg : GbMessage) (cportId : U16) : FwM cfg ℤ :=
  if cportId = CONTROL_PROTOCOL_CPORT then do
    controlProtocolHandle env msg
    liftIo (gbMessageDealloc msg)
    return 0
  else do
    liftIo (gbMessageDealloc msg)
    return 0

end Cc1352Greybus
