import Meowbox.Gateway.Frames

/-!
# The events a federated channel may carry

Model of `api/src/federation/federated-socket-policy.ts` and of its document,
`federated-socket-policy.json`: the commands of a browser and the notifications for it, each under
an action id made of its event. The checks of payloads are not part of it; its users take them as
any predicate on an action and a payload.

* `policy_patterned`: the ids and the events of all actions pass the patterns of a frame.
-/

namespace Meowbox.Gateway

open JsData

/-- `FederatedSocketRole`. -/
inductive FederatedSocketRole
  | admin | manager
deriving DecidableEq

inductive FederatedSocketReadiness
  | requireReady | queueSubscription
deriving DecidableEq

inductive FederatedSocketDirection
  | browserToApi | apiToBrowser
deriving DecidableEq

/-- `FederatedSocketPolicyAction`, without the descriptor. -/
structure FederatedSocketPolicyAction where
  event : String
  actionId : String
  roles : List FederatedSocketRole
  direction : FederatedSocketDirection
  readiness : Option FederatedSocketReadiness
deriving DecidableEq

/-- `event.replace(/:/g, '-').replace(/_/g, '-')`, of its characters. -/
def dashed (event : List Char) : List Char :=
  event.map fun c => if c == ':' || c == '_' then '-' else c

/-- `actionId`. -/
def actionId (channel event : String) : String :=
  "ws." ++ channel ++ "." ++ String.ofList (dashed event.toList)

/-- `browserToApi` of the document. -/
def browserToApi : List (String × List FederatedSocketRole × FederatedSocketReadiness) :=
  [("ai:message", [.admin, .manager], .requireReady),
    ("ai:start", [.admin, .manager], .requireReady),
    ("ai:stop", [.admin, .manager], .requireReady),
    ("logs:tail:start", [.admin, .manager], .requireReady),
    ("logs:tail:stop", [.admin, .manager], .requireReady),
    ("php:ext-install:subscribe", [.admin], .queueSubscription),
    ("php:ext-install:unsubscribe", [.admin], .queueSubscription),
    ("php:install:subscribe", [.admin], .queueSubscription),
    ("php:install:unsubscribe", [.admin], .queueSubscription),
    ("terminal:close", [.admin], .requireReady),
    ("terminal:input", [.admin], .requireReady),
    ("terminal:open", [.admin], .requireReady),
    ("terminal:resize", [.admin], .requireReady)]

/-- `apiToBrowser` of the document. -/
def apiToBrowser : List (String × List FederatedSocketRole) :=
  [("ai:error", [.admin, .manager]), ("ai:result", [.admin, .manager]),
    ("ai:system", [.admin, .manager]), ("ai:text", [.admin, .manager]),
    ("ai:thinking", [.admin, .manager]), ("ai:tool_result", [.admin, .manager]),
    ("ai:tool_use_done", [.admin, .manager]), ("ai:tool_use_input", [.admin, .manager]),
    ("ai:tool_use_start", [.admin, .manager]), ("backup:progress", [.admin, .manager]),
    ("backup:restore:progress", [.admin, .manager]), ("logs:tail:data", [.admin, .manager]),
    ("php:ext-install:log", [.admin]), ("php:install:log", [.admin]),
    ("site:deploy:log", [.admin, .manager]), ("site:provision:done", [.admin, .manager]),
    ("site:provision:log", [.admin, .manager]), ("site:status", [.admin, .manager]),
    ("system:metrics", [.admin, .manager]), ("terminal:data", [.admin])]

/-- `this.commands`. -/
def commands : List FederatedSocketPolicyAction :=
  browserToApi.map fun entry => ⟨entry.1, actionId "browser-command" entry.1, entry.2.1,
    .browserToApi, some entry.2.2⟩

/-- `this.notifications`. -/
def notifications : List FederatedSocketPolicyAction :=
  apiToBrowser.map fun entry => ⟨entry.1, actionId "browser-notification" entry.1, entry.2,
    .apiToBrowser, none⟩

def actionsForRole (role : FederatedSocketRole) : List FederatedSocketPolicyAction :=
  (commands ++ notifications).filter fun action => action.roles.contains role

def commandForEvent (event : String) (role : FederatedSocketRole) :
    Option FederatedSocketPolicyAction :=
  commands.find? fun action => action.event == event && action.roles.contains role

def notificationForEvent (event : String) (role : FederatedSocketRole) :
    Option FederatedSocketPolicyAction :=
  notifications.find? fun action => action.event == event && action.roles.contains role

/-- `this.byActionId.get(actionId)`: of two entries of one id the later. -/
def actionById (id : String) : Option FederatedSocketPolicyAction :=
  (commands ++ notifications).reverse.find? fun action => action.actionId == id

/-! ## What holds of the document -/

/-- The characters of an action id. -/
def idChars (channel event : String) : List Char :=
  "ws.".toList ++ channel.toList ++ ".".toList ++ dashed event.toList

theorem actionId_toList (channel event : String) :
    (actionId channel event).toList = idChars channel event := by
  unfold actionId idChars
  rw [String.toList_append, String.toList_append, String.toList_append,
    String.toList_ofList (l := dashed event.toList)]

theorem actionIds_nodup :
    ((commands ++ notifications).map FederatedSocketPolicyAction.actionId).Nodup := by
  have hchs : ((commands ++ notifications).map fun action => action.actionId.toList) =
      (browserToApi.map fun entry => idChars "browser-command" entry.1) ++
        apiToBrowser.map fun entry => idChars "browser-notification" entry.1 := by
    simp only [commands, notifications, List.map_append, List.map_map, Function.comp_def,
      actionId_toList]
  have hnd : ((commands ++ notifications).map fun action => action.actionId.toList).Nodup := by
    rw [hchs]
    -- the ids of a direction differ behind its channel
    refine List.Nodup.of_map (List.drop 19) ?_
    decide +kernel
  refine List.Nodup.of_map String.toList ?_
  rw [List.map_map]
  exact hnd

/-- An action id of so many characters in the pattern, and an event. -/
def fitsPolicy (channel event : String) : Bool :=
  decide (1 ≤ units (idChars channel event)) && decide (units (idChars channel event) ≤ 1024) &&
    isScoped '.' (idChars channel event) && decide (Patterned 1024 isEvent event)

theorem patterned_of_fitsPolicy {channel event : String} (h : fitsPolicy channel event = true) :
    Patterned 1024 isActionId (actionId channel event) ∧ Patterned 1024 isEvent event := by
  simp only [fitsPolicy, Bool.and_eq_true, decide_eq_true_eq] at h
  obtain ⟨⟨⟨hlo, hhi⟩, hscp⟩, hev⟩ := h
  have hlen : jsLength (actionId channel event) = units (idChars channel event) := by
    rw [jsLength, actionId_toList, units]
  refine ⟨⟨hlen ▸ hlo, hlen ▸ hhi, ?_⟩, hev⟩
  rw [isActionId, actionId_toList]
  exact hscp

theorem policy_patterned : ∀ action ∈ commands ++ notifications,
    Patterned 1024 isActionId action.actionId ∧ Patterned 1024 isEvent action.event := by
  have hcommands : ∀ entry ∈ browserToApi, fitsPolicy "browser-command" entry.1 = true := by
    decide +kernel
  have hnotifications : ∀ entry ∈ apiToBrowser,
      fitsPolicy "browser-notification" entry.1 = true := by
    decide +kernel
  intro action hact
  rcases List.mem_append.mp hact with hmem | hmem
  · obtain ⟨entry, hentry, rfl⟩ := List.mem_map.mp hmem
    exact patterned_of_fitsPolicy (hcommands entry hentry)
  · obtain ⟨entry, hentry, rfl⟩ := List.mem_map.mp hmem
    exact patterned_of_fitsPolicy (hnotifications entry hentry)

variable {action : FederatedSocketPolicyAction}

/-- **An action is found under its id.** -/
theorem actionById_of_mem (h : action ∈ commands ++ notifications) :
    actionById action.actionId = some action := by
  unfold actionById
  cases hfnd : (commands ++ notifications).reverse.find? fun a =>
    a.actionId == action.actionId with
  | none =>
    have hnone := List.find?_eq_none.mp hfnd action (List.mem_reverse.mpr h)
    exact absurd (beq_self_eq_true action.actionId) hnone
  | some found =>
    have hid : found.actionId = action.actionId := by simpa using List.find?_some hfnd
    have hmem := List.mem_reverse.mp (List.mem_of_find?_eq_some hfnd)
    rw [List.inj_on_of_nodup_map actionIds_nodup hmem h hid]

theorem mem_of_actionsForRole {role : FederatedSocketRole} (h : action ∈ actionsForRole role) :
    action ∈ commands ++ notifications :=
  (List.mem_filter.mp h).1

theorem mem_of_notificationForEvent {event : String} {role : FederatedSocketRole}
    (h : notificationForEvent event role = some action) :
    action ∈ commands ++ notifications ∧ action.event = event := by
  have hmem := List.mem_of_find?_eq_some h
  have hsome := List.find?_some h
  simp only [Bool.and_eq_true, beq_iff_eq] at hsome
  exact ⟨List.mem_append_right _ hmem, hsome.1⟩

end Meowbox.Gateway
