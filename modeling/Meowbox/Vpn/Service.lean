import Meowbox.Lib.Alone
import Meowbox.Vpn.Store

/-!
# The VPN service of the panel

The methods of `VpnService` that change users, credentials and services, and what they use of the
providers, as programs over the statements of `Vpn/Store.lean`.

* A provider is chosen by the protocol of the row; it refuses secrets of the other protocol.
* A view of credentials is what it is rendered from.
* What `catch` swallows is an `attempt` whose outcome nobody looks at.
-/

namespace Meowbox.Vpn

open Interleaved Fallible

abbrev VpnCall := Fallible VpnInstr Reply VpnError

abbrev perform (i : VpnInstr) : VpnCall (Reply i) := Fallible.ask i

/-- A statement that fails throws. -/
abbrev orThrow {α : Type} (r : Except VpnError α) : Except VpnError α := r

/-! ## Addresses -/

def Cidr.text (network : Cidr) : String :=
  String.intercalate "." ([network.a, network.b, network.c, network.d].map fun n =>
    toString n.toNat) ++ "/" ++ toString network.bits.val

/-- `ipPlus`: numbers of 32 bits; a shift takes its count modulo 32. -/
def ipPlus (network : Cidr) (offset : Nat) : String :=
  let baseInt : BitVec 32 := (network.a.setWidth 32 <<< 24) ||| (network.b.setWidth 32 <<< 16) |||
    (network.c.setWidth 32 <<< 8) ||| network.d.setWidth 32
  let masked := baseInt &&& (BitVec.allOnes 32 <<< ((32 - network.bits.val) % 32))
  let newInt := masked + BitVec.ofNat 32 offset
  String.intercalate "." ([newInt >>> 24, newInt >>> 16, newInt >>> 8, newInt].map fun n =>
    toString (n &&& 255).toNat)

/-- `allocateNextIp`: the first of the offsets 2 to 253 that is free. -/
def allocateNextIp (network : Cidr) (takenIps : List String) : Except VpnError String :=
  match ((List.range' 2 252).map (ipPlus network)).find? fun ip => !takenIps.contains ip with
  | some ip => .ok ip
  | none => .error ⟨.internal,
      "Подсеть " ++ network.text ++ " переполнена (все .2..253 заняты)"⟩

theorem allocateNextIp_free {network : Cidr} {takenIps : List String} {ip : String}
    (h : allocateNextIp network takenIps = .ok ip) : ip ∉ takenIps := by
  unfold allocateNextIp at h
  split at h
  · rename_i ip' hfind
    cases h
    simpa using List.find?_some hfind
  · cases h

/-- The address of credentials that can be read. -/
def CredsRow.takenIp (r : CredsRow) : Option String :=
  match decryptVpnJson r.credsBlob with
  | .ok (.amneziaWg _ peerIp) => some peerIp
  | _ => none

/-- `collectTakenIps`, of the rows it has read. -/
def takenIps (rows : List CredsRow) : List String := rows.filterMap CredsRow.takenIp

/-! ## Providers -/

def protocolMismatch : VpnError := ⟨.internal, "protocol mismatch"⟩

/-- No answer, or one without success. -/
def answered (message : String) : Option Nat → Except VpnError Nat
  | some n => .ok n
  | none => .error ⟨.internal, message⟩

/-- A request to the manager of a protocol. -/
def request (protocol : VpnProtocol) (serviceId : Nat) (r : AgentRequest) (message : String) :
    VpnCall Nat :=
  ask? (.emitToAgent ⟨protocol, serviceId, r⟩) (answered message)

/-- `generateUserCreds`. -/
def generateUserCreds (protocol : VpnProtocol) (cfg : VpnServiceConfig)
    (allocatedIp : Option String) : VpnCall VpnUserCreds :=
  match protocol with
  | .vlessReality => do return .vlessReality (← perform .randomUuid)
  | .amneziaWg =>
    if cfg.protocol ≠ .amneziaWg then throw protocolMismatch
    else
      match allocatedIp with
      | none => throw ⟨.internal, "allocatedIp обязателен для AmneziaWG creds"⟩
      | some peerIp => do return .amneziaWg (← ask? .genPeer (answered "gen-peer failed")) peerIp

/-- `applyAddUser`. -/
def applyAddUser (protocol : VpnProtocol) (serviceId : Nat) (creds : VpnUserCreds) :
    VpnCall Nat :=
  if creds.protocol ≠ protocol then throw protocolMismatch
  else request protocol serviceId (.addUser creds.toPeer) "add-user failed"

/-- `applyRemoveUser`. -/
def applyRemoveUser (protocol : VpnProtocol) (serviceId : Nat) (creds : VpnUserCreds) :
    VpnCall Nat :=
  if creds.protocol ≠ protocol then throw protocolMismatch
  else request protocol serviceId (.removeUser creds.toPeer.key) "remove-user failed"

/-! ## Users and their credentials -/

/-- What `getUserCredsView` renders. -/
structure CredsView where
  cfg : VpnServiceConfig
  creds : VpnUserCreds
  port : Nat
  name : String
deriving DecidableEq

def notFound : VpnError := ⟨.notFound, "Not Found"⟩

/-- `getUserCredsView`. -/
def getUserCredsView (userId serviceId : Nat) : VpnCall CredsView := do
  match ← perform (.findCreds userId serviceId) with
  | none => throw notFound
  | some (cred, service, user) =>
    let cfg ← Fallible.ofExcept (decryptVpnJson service.configBlob)
    let creds ← Fallible.ofExcept (decryptVpnJson cred.credsBlob)
    if cfg.protocol ≠ service.protocol ∨ creds.protocol ≠ service.protocol then
      throw protocolMismatch
    else return ⟨cfg, creds, service.port, user.name⟩

/-- The address of a new peer, where the service has addresses. -/
def allocateIp (serviceId : Nat) : VpnServiceConfig → VpnCall (Option String)
  | .vlessReality _ => return none
  | .amneziaWg _ network => do
    let rows ← perform (.credsOfService serviceId)
    let ip ← Fallible.ofExcept (allocateNextIp network (takenIps rows))
    return some ip

/-- `addUserToService`, from the creation of the row on. -/
def createAndApply (user : UserRow) (service : ServiceRow) (creds : VpnUserCreds) :
    VpnCall CredsView := do
  ask? (.createCreds ⟨user.id, service.id, encryptVpnJson creds⟩) orThrow
  if user.enabled ∧ service.status = .running then
    match ← attempt (applyAddUser service.protocol service.id creds) with
    | .ok _ => getUserCredsView user.id service.id
    | .error e =>
      ask? (.deleteCreds user.id service.id) orThrow
      throw ⟨.badRequest, "Не удалось применить юзера на агенте: " ++ e.message⟩
  else getUserCredsView user.id service.id

/-- `addUserToService`. -/
def addUserToService (userId serviceId : Nat) : VpnCall CredsView := do
  match ← perform (.findUser userId) with
  | none => throw ⟨.notFound, "User " ++ toString userId⟩
  | some user =>
    match ← perform (.findService serviceId) with
    | none => throw ⟨.notFound, "Service " ++ toString serviceId⟩
    | some service =>
      match ← perform (.findCreds user.id service.id) with
      | some _ => throw ⟨.conflict, "Юзер уже добавлен в этот сервис"⟩
      | none =>
        let cfg ← Fallible.ofExcept (decryptVpnJson service.configBlob)
        let allocatedIp ← allocateIp service.id cfg
        let creds ← generateUserCreds service.protocol cfg allocatedIp
        createAndApply user service creds

/-- Both secrets are read, and the peer is taken off. -/
def removeFromAgent (cred : CredsRow) (service : ServiceRow) : VpnCall Nat := do
  let _ ← Fallible.ofExcept (decryptVpnJson service.configBlob)
  let creds ← Fallible.ofExcept (decryptVpnJson cred.credsBlob)
  applyRemoveUser service.protocol cred.serviceId creds

/-- `removeUserFromService`. -/
def removeUserFromService (userId serviceId : Nat) : VpnCall Unit := do
  match ← perform (.findCreds userId serviceId) with
  | none => throw notFound
  | some (cred, service, _) =>
    let _ ← attempt (removeFromAgent cred service)
    ask? (.deleteCreds userId serviceId) orThrow

/-- `getUser`. -/
def getUser (id : Nat) : VpnCall (UserRow × List (CredsRow × ServiceRow)) := do
  match ← perform (.findUser id) with
  | none => throw ⟨.notFound, "VPN user " ++ toString id ++ " not found"⟩
  | some u => return (u, ← perform (.credsOfUser id))

/-- `CreateUserDto`. -/
structure CreateUserDto where
  name : String
  serviceIds : List Nat
  notes : Option String
deriving DecidableEq

/-- `createUser`. -/
def createUser (dto : CreateUserDto) : VpnCall (UserRow × List (CredsRow × ServiceRow)) := do
  match ← perform (.findUserByName dto.name) with
  | some _ => throw ⟨.conflict, "Юзер с именем \"" ++ dto.name ++ "\" уже есть"⟩
  | none =>
    let id ← ask? (.createUser dto.name dto.notes) orThrow
    each (fun serviceId => do
      let _ ← attempt (addUserToService id serviceId)
      return ()) dto.serviceIds
    getUser id

/-- `UpdateUserDto`. -/
structure UpdateUserDto where
  name : Option String
  enabled : Option Bool
  notes : Option String
deriving DecidableEq

/-- One turn of the loop of `updateUser`: only what the agent answers is swallowed. -/
def toggleOnAgent (enabled : Bool) (c : CredsRow × ServiceRow) : VpnCall Unit := do
  let _ ← Fallible.ofExcept (decryptVpnJson c.2.configBlob)
  let creds ← Fallible.ofExcept (decryptVpnJson c.1.credsBlob)
  let _ ← attempt (if enabled then applyAddUser c.2.protocol c.1.serviceId creds
    else applyRemoveUser c.2.protocol c.1.serviceId creds)
  return ()

/-- A new name that somebody has. -/
def nameTaken (u : UserRow) (name : Option String) : VpnCall Bool :=
  match name.filter fun n => n != "" && n != u.name with
  | none => return false
  | some n => do return (← perform (.findUserByName n)).isSome

/-- `enabled`, where it changes, on all services of the user. -/
def toggleAll (u : UserRow) (enabled : Option Bool) : VpnCall Unit :=
  match enabled.filter fun b => b != u.enabled with
  | none => return ()
  | some b => do
    let allCreds ← perform (.credsOfUser u.id)
    each (toggleOnAgent b) allCreds

/-- `updateUser`. -/
def updateUser (id : Nat) (dto : UpdateUserDto) :
    VpnCall (UserRow × List (CredsRow × ServiceRow)) := do
  match ← perform (.findUser id) with
  | none => throw notFound
  | some u =>
    if ← nameTaken u dto.name then throw ⟨.conflict, "Conflict"⟩
    else
      toggleAll u dto.enabled
      ask? (.updateUser u.id dto.name dto.enabled dto.notes) orThrow
      getUser u.id

/-- `deleteUser`. -/
def deleteUser (id : Nat) : VpnCall Unit := do
  match ← perform (.findUser id) with
  | none => throw notFound
  | some u =>
    let allCreds ← perform (.credsOfUser u.id)
    each (fun c => do
      let _ ← attempt (removeFromAgent c.1 c.2)
      return ()) allCreds
    ask? (.deleteUser u.id) orThrow

/-! ## Services -/

/-- `isVpnPortReserved`. -/
def isVpnPortReserved (protocol : VpnProtocol) (port : Nat) : Bool :=
  decide (protocol = .vlessReality) && [80, 443].contains port

/-- `startService`. -/
def startService (id : Nat) : VpnCall Unit := do
  match ← perform (.findService id) with
  | none => throw notFound
  | some s =>
    if isVpnPortReserved s.protocol s.port then
      throw ⟨.badRequest, "TCP-порт " ++ toString s.port ++ " зарезервирован для HTTP/HTTPS " ++
        "сайтов Meowbox. Выбери другой порт, например 8443."⟩
    else
      let _ ← request s.protocol s.id .start "start failed"
      ask? (.setServiceStatus s.id .running) orThrow

/-- `stopService`. -/
def stopService (id : Nat) : VpnCall Unit := do
  match ← perform (.findService id) with
  | none => throw notFound
  | some s =>
    let _ ← request s.protocol s.id .stop "stop failed"
    ask? (.setServiceStatus s.id .stopped) orThrow

/-- The configuration with the new keys. -/
def VpnServiceConfig.withKeys (fresh : Nat) : VpnServiceConfig → VpnServiceConfig
  | vlessReality _ => vlessReality fresh
  | amneziaWg _ network => amneziaWg fresh network

/-- `rotateKeys`: the provider is the one of the configuration. -/
def rotateServiceKeys (id : Nat) : VpnCall Unit := do
  match ← perform (.findService id) with
  | none => throw notFound
  | some s =>
    let cfg ← Fallible.ofExcept (decryptVpnJson s.configBlob)
    let fresh ← request cfg.protocol s.id .rotateKeys "rotate-keys failed"
    ask? (.setServiceConfig s.id (encryptVpnJson (cfg.withKeys fresh))) orThrow

/-- `deleteService`. -/
def deleteService (id : Nat) : VpnCall Unit := do
  match ← perform (.findService id) with
  | none => throw ⟨.notFound, "VPN service " ++ toString id ++ " not found"⟩
  | some s =>
    if ← perform .isAgentConnected then
      let _ ← attempt (request s.protocol s.id .uninstall "uninstall failed")
      ask? (.deleteService s.id) orThrow
    else ask? (.deleteService s.id) orThrow

/-! ## Calls -/

inductive VpnOrder
  | createUser (dto : CreateUserDto)
  | updateUser (id : Nat) (dto : UpdateUserDto)
  | deleteUser (id : Nat)
  | addUserToService (userId serviceId : Nat)
  | removeUserFromService (userId serviceId : Nat)
  | startService (id : Nat)
  | stopService (id : Nat)
  | rotateKeys (id : Nat)
  | deleteService (id : Nat)
deriving DecidableEq

/-- The calls return nothing to the system. -/
def discard {α : Type} (c : VpnCall α) : VpnCall Unit := do
  let _ ← c
  return ()

def orderProgram : VpnOrder → VpnCall Unit
  | .createUser dto => discard (createUser dto)
  | .updateUser id dto => discard (updateUser id dto)
  | .deleteUser id => deleteUser id
  | .addUserToService userId serviceId => discard (addUserToService userId serviceId)
  | .removeUserFromService userId serviceId => removeUserFromService userId serviceId
  | .startService id => startService id
  | .stopService id => stopService id
  | .rotateKeys id => rotateServiceKeys id
  | .deleteService id => deleteService id

end Meowbox.Vpn
