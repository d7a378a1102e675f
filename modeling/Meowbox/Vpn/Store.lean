import Meowbox.Lib.Fallible
import Meowbox.Vpn.Agent

/-!
# The tables of the VPN panel

The rows behind `api/src/vpn/vpn.service.ts`, the statements over them, and the requests to the
agent.

* A stored secret is a value that may have become unreadable: its key is lost, or the text broken.
* What comes of the next requests to the agent is a list of fates: refused, given up while the agent
  has it still before it, or performed, with the commands that fail and whether an answer arrives.
  Requests beyond the list are performed.
* Key pairs, UUIDs and ids of users are the numbers of their draws.

Labels, ports' checks on the server, SNI masks and their health, sub tokens, the names that go into
comments of the agent's files, and the text of the views are left out.
-/

namespace Meowbox.Vpn

open Interleaved

/-! ## Values -/

/-- `VpnServiceStatus`. -/
inductive VpnServiceStatus
  | running
  | stopped
  | error
  | deploying
deriving DecidableEq

inductive VpnErrorKind
  | badRequest
  | notFound
  | conflict
  /-- What a cipher, a statement or a provider throws. -/
  | internal
deriving DecidableEq

structure VpnError where
  kind : VpnErrorKind
  message : String
deriving DecidableEq

/-- A network in CIDR notation; `IPV4_CIDR_REGEX` admits no other. -/
structure Cidr where
  a : BitVec 8
  b : BitVec 8
  c : BitVec 8
  d : BitVec 8
  bits : Fin 33
deriving DecidableEq

/-- `VpnServiceConfig`: what the panel reads of it or replaces. -/
inductive VpnServiceConfig
  | vlessReality (keys : Nat)
  | amneziaWg (srv : Nat) (network : Cidr)
deriving DecidableEq

def VpnServiceConfig.protocol : VpnServiceConfig → VpnProtocol
  | vlessReality _ => .vlessReality
  | amneziaWg _ _ => .amneziaWg

/-- `VpnUserCreds`: the UUID, or the keys of the peer and its address. -/
inductive VpnUserCreds
  | vlessReality (uuid : Nat)
  | amneziaWg (peer : Nat) (peerIp : String)
deriving DecidableEq

namespace VpnUserCreds

def protocol : VpnUserCreds → VpnProtocol
  | vlessReality _ => .vlessReality
  | amneziaWg _ _ => .amneziaWg

/-- What the agent is asked to add. -/
def toPeer : VpnUserCreds → Peer
  | vlessReality uuid => ⟨uuid, none⟩
  | amneziaWg peer peerIp => ⟨peer, some peerIp⟩

end VpnUserCreds

/-- A stored secret. -/
structure Blob (α : Type) where
  value : α
  readable : Bool
deriving DecidableEq

/-- `encryptVpnJson`. -/
def encryptVpnJson {α : Type} (value : α) : Blob α := ⟨value, true⟩

/-- `decryptVpnJson`. -/
def decryptVpnJson {α : Type} (blob : Blob α) : Except VpnError α :=
  if blob.readable then .ok blob.value
  else .error ⟨.internal, "Не удалось расшифровать VPN-секрет: master-key не подошёл, " ++
    "legacy ключ не найден. Запустите миграцию 2026-05-10-002-rekey-secrets или восстановите " ++
    "ключи из бэкапа."⟩

theorem decryptVpnJson_ok {α : Type} {blob : Blob α} {value : α}
    (h : decryptVpnJson blob = .ok value) : blob.value = value ∧ blob.readable = true := by
  unfold decryptVpnJson at h
  split at h
  · rename_i hrd
    exact ⟨Except.ok.inj h, hrd⟩
  · cases h

/-! ## Rows -/

structure UserRow where
  id : Nat
  name : String
  enabled : Bool
  notes : Option String
deriving DecidableEq

structure ServiceRow where
  id : Nat
  protocol : VpnProtocol
  port : Nat
  status : VpnServiceStatus
  configBlob : Blob VpnServiceConfig
deriving DecidableEq

/-- `VpnUserCreds`, the table: one row for a user and a service. -/
structure CredsRow where
  userId : Nat
  serviceId : Nat
  credsBlob : Blob VpnUserCreds
deriving DecidableEq

def CredsRow.peer (r : CredsRow) : Peer := r.credsBlob.value.toPeer

/-! ## Requests to the agent -/

/-- What comes of a request. -/
inductive Fate
  | refused
  | late
  | performed (failing : List Nat) (answered : Bool)
deriving DecidableEq

/-- A request about a service, with the manager it goes to. -/
structure PendingRequest where
  protocol : VpnProtocol
  serviceId : Nat
  request : AgentRequest
deriving DecidableEq

structure VpnState where
  users : List UserRow
  services : List ServiceRow
  creds : List CredsRow
  agent : Nat → AgentService
  connected : Bool
  fates : List Fate
  /-- Requests that the panel has given up, and the agent has not performed. -/
  pending : List PendingRequest
  drawn : Nat

namespace VpnState

def findUser (x : VpnState) (id : Nat) : Option UserRow := x.users.find? fun u => u.id == id

def findService (x : VpnState) (id : Nat) : Option ServiceRow :=
  x.services.find? fun s => s.id == id

/-- The row of a user and a service, with both. -/
def findCreds (x : VpnState) (userId serviceId : Nat) : Option (CredsRow × ServiceRow × UserRow) :=
  (x.creds.find? fun r => r.userId == userId && r.serviceId == serviceId).bind fun r =>
    (x.findService serviceId).bind fun s => (x.findUser userId).map fun u => (r, s, u)

/-- The rows of a user, each with its service. -/
def credsOfUser (x : VpnState) (userId : Nat) : List (CredsRow × ServiceRow) :=
  (x.creds.filter fun r => r.userId == userId).filterMap fun r =>
    (x.findService r.serviceId).map fun s => (r, s)

def credsOfService (x : VpnState) (serviceId : Nat) : List CredsRow :=
  x.creds.filter fun r => r.serviceId == serviceId

/-- `P2025`. -/
def missingRow : VpnError := ⟨.internal, "Record to update not found."⟩

/-- `P2002` and `P2003`. -/
def constraintFailed : VpnError := ⟨.internal, "Constraint failed"⟩

def updateUser (x : VpnState) (id : Nat) (f : UserRow → UserRow) :
    Except VpnError Unit × VpnState :=
  if (x.findUser id).isSome then
    (.ok (), { x with users := x.users.map fun u => if u.id = id then f u else u })
  else (.error missingRow, x)

def updateService (x : VpnState) (id : Nat) (f : ServiceRow → ServiceRow) :
    Except VpnError Unit × VpnState :=
  if (x.findService id).isSome then
    (.ok (), { x with services := x.services.map fun s => if s.id = id then f s else s })
  else (.error missingRow, x)

/-- The rows of the credentials go with the user. -/
def deleteUser (x : VpnState) (id : Nat) : Except VpnError Unit × VpnState :=
  if (x.findUser id).isSome then
    (.ok (), { x with
      users := x.users.filter fun u => u.id != id
      creds := x.creds.filter fun r => r.userId != id })
  else (.error missingRow, x)

/-- The rows of the credentials go with the service. -/
def deleteService (x : VpnState) (id : Nat) : Except VpnError Unit × VpnState :=
  if (x.findService id).isSome then
    (.ok (), { x with
      services := x.services.filter fun s => s.id != id
      creds := x.creds.filter fun r => r.serviceId != id })
  else (.error missingRow, x)

def createUser (x : VpnState) (name : String) (notes : Option String) :
    Except VpnError Nat × VpnState :=
  if x.users.any fun u => u.name == name then (.error constraintFailed, x)
  else (.ok x.drawn, { x with
    users := x.users ++ [⟨x.drawn, name, true, notes⟩], drawn := x.drawn + 1 })

def createCreds (x : VpnState) (row : CredsRow) : Except VpnError Unit × VpnState :=
  if (x.creds.any fun r => r.userId == row.userId && r.serviceId == row.serviceId) ||
      (x.findUser row.userId).isNone || (x.findService row.serviceId).isNone then
    (.error constraintFailed, x)
  else (.ok (), { x with creds := x.creds ++ [row] })

def deleteCreds (x : VpnState) (userId serviceId : Nat) : Except VpnError Unit × VpnState :=
  if x.creds.any fun r => r.userId == userId && r.serviceId == serviceId then
    (.ok (), { x with
      creds := x.creds.filter fun r => !(r.userId == userId && r.serviceId == serviceId) })
  else (.error missingRow, x)

/-- The agent performs a request. -/
def perform (x : VpnState) (r : PendingRequest) (failing : List Nat) : Bool × VpnState :=
  let result := (x.agent r.serviceId).perform r.protocol r.request failing
  (result.1, { x with agent := Function.update x.agent r.serviceId result.2 })

/-- `emitToAgent` with a request about a service: a number that is new to the panel when it is
answered with success. -/
def emitToAgent (x : VpnState) (r : PendingRequest) : Option Nat × VpnState :=
  if !x.connected then (none, x)
  else
    let y := { x with fates := x.fates.tail, drawn := x.drawn + 1 }
    match x.fates.headD (.performed [] true) with
    | .refused => (none, y)
    | .late => (none, { y with pending := x.pending ++ [r] })
    | .performed failing answered =>
      (if (y.perform r failing).1 && answered then some x.drawn else none, (y.perform r failing).2)

/-- The agent performs a request that the panel has given up. -/
def performLate (x : VpnState) (n : Nat) (failing : List Nat) : VpnState :=
  match x.pending[n]? with
  | some r => { (x.perform r failing).2 with pending := x.pending.eraseIdx n }
  | none => x

/-- `vpn:awg:gen-peer`. -/
def genPeer (x : VpnState) : Option Nat × VpnState :=
  if !x.connected then (none, x)
  else
    (if x.fates.headD (.performed [] true) = .performed [] true then some x.drawn else none,
      { x with fates := x.fates.tail, drawn := x.drawn + 1 })

end VpnState

/-! ## Instructions -/

inductive VpnInstr
  | findUser (id : Nat)
  | findUserByName (name : String)
  | findService (id : Nat)
  | findCreds (userId serviceId : Nat)
  | credsOfUser (userId : Nat)
  | credsOfService (serviceId : Nat)
  | createUser (name : String) (notes : Option String)
  | updateUser (id : Nat) (name : Option String) (enabled : Option Bool) (notes : Option String)
  | deleteUser (id : Nat)
  | setServiceStatus (id : Nat) (status : VpnServiceStatus)
  | setServiceConfig (id : Nat) (config : Blob VpnServiceConfig)
  | deleteService (id : Nat)
  | createCreds (row : CredsRow)
  | deleteCreds (userId serviceId : Nat)
  | isAgentConnected
  | emitToAgent (r : PendingRequest)
  | genPeer
  | randomUuid
deriving DecidableEq

abbrev Reply : VpnInstr → Type
  | .findUser _ => Option UserRow
  | .findUserByName _ => Option UserRow
  | .findService _ => Option ServiceRow
  | .findCreds _ _ => Option (CredsRow × ServiceRow × UserRow)
  | .credsOfUser _ => List (CredsRow × ServiceRow)
  | .credsOfService _ => List CredsRow
  | .createUser _ _ => Except VpnError Nat
  | .updateUser _ _ _ _ => Except VpnError Unit
  | .deleteUser _ => Except VpnError Unit
  | .setServiceStatus _ _ => Except VpnError Unit
  | .setServiceConfig _ _ => Except VpnError Unit
  | .deleteService _ => Except VpnError Unit
  | .createCreds _ => Except VpnError Unit
  | .deleteCreds _ _ => Except VpnError Unit
  | .isAgentConnected => Bool
  | .emitToAgent _ => Option Nat
  | .genPeer => Option Nat
  | .randomUuid => Nat

/-- The answer to an instruction, and the state after it. -/
def reply : (i : VpnInstr) → VpnState → Reply i × VpnState
  | .findUser id, x => (x.findUser id, x)
  | .findUserByName name, x => (x.users.find? fun u => u.name == name, x)
  | .findService id, x => (x.findService id, x)
  | .findCreds userId serviceId, x => (x.findCreds userId serviceId, x)
  | .credsOfUser userId, x => (x.credsOfUser userId, x)
  | .credsOfService serviceId, x => (x.credsOfService serviceId, x)
  | .createUser name notes, x => x.createUser name notes
  | .updateUser id name enabled notes, x => x.updateUser id fun u => { u with
      name := name.getD u.name
      enabled := enabled.getD u.enabled
      notes := notes.or u.notes }
  | .deleteUser id, x => x.deleteUser id
  | .setServiceStatus id status, x => x.updateService id fun s => { s with status := status }
  | .setServiceConfig id config, x => x.updateService id fun s => { s with configBlob := config }
  | .deleteService id, x => x.deleteService id
  | .createCreds row, x => x.createCreds row
  | .deleteCreds userId serviceId, x => x.deleteCreds userId serviceId
  | .isAgentConnected, x => (x.connected, x)
  | .emitToAgent r, x => x.emitToAgent r
  | .genPeer, x => x.genPeer
  | .randomUuid, x => (x.drawn, { x with drawn := x.drawn + 1 })

end Meowbox.Vpn
