/-!
# Names that are known

The events a client may submit, the kinds of client, and the events of the server, which no client
may submit.
-/

namespace TelemetryGate

namespace Registry

def clientEvents : List String :=
  ["user_open_expanded_view", "user_close_expanded_view",
    "user_open_participants_list", "user_close_participants_list",
    "user_share_screen", "user_unshare_screen",
    "user_raise_hand", "user_lower_hand",
    "user_open_channel_link"]

def clientTypes : List String := ["web", "mobile", "desktop"]

def isClientEvent (name : String) : Bool := clientEvents.contains name

def isClientType (name : String) : Bool := clientTypes.contains name

end Registry

inductive ServerEvent where
  | callStarted
  | callEnded
  | userJoined
  | userLeft
  | notifyAdmin
deriving DecidableEq, Repr

namespace ServerEvent

def all : List ServerEvent := [callStarted, callEnded, userJoined, userLeft, notifyAdmin]

def name : ServerEvent → String
  | callStarted => "call_started"
  | callEnded => "call_ended"
  | userJoined => "call_user_joined"
  | userLeft => "call_user_left"
  | notifyAdmin => "call_notify_admin"

theorem not_isClientEvent (e : ServerEvent) : Registry.isClientEvent e.name = false := by
  cases e <;> decide

end ServerEvent

end TelemetryGate
