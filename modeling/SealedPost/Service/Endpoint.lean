import SealedPost.Text.Basic

/-! # Endpoints

The paths that the service answers and the method of each. A line feed at the end of a
fixed path does not count. -/

namespace SealedPost.Service

/-- What a path stands for. -/
inductive Endpoint where
  | health
  | messages
  | message (key : Text)
  | events
deriving DecidableEq

namespace Endpoint

/-- A path without one line feed at its end. -/
def trimmed (path : Text) : Text :=
  if path.getLast? = some (.char '\n') then path.dropLast else path

/-- The key in the path of a message. -/
def messageKey? (path : Text) : Option Text :=
  let start : Text := "/messages/"
  if start.isPrefixOf path then
    let key := path.drop start.length
    if key.isEmpty || key.contains (.char '/') then none else some key
  else none

/-- The endpoint of a path. -/
def ofPath? (path : Text) : Option Endpoint :=
  let fixed := trimmed path
  if fixed = Text.ofString "/health" then some .health
  else if fixed = Text.ofString "/messages" then some .messages
  else if fixed = Text.ofString "/events" then some .events
  else (messageKey? path).map .message

/-- The method of an endpoint. -/
def method : Endpoint → Text
  | messages => "POST"
  | _ => "GET"

/-- Whether a path leads to an endpoint once the slashes at its end are gone. -/
def isRedirected (path : Text) : Bool :=
  path.getLast? = some (.char '/') &&
    (ofPath? (path.reverse.dropWhile (· = .char '/')).reverse).isSome

/-- Whether a path is that of the live feed. -/
def isFeed (path : Text) : Bool := trimmed path = Text.ofString "/ws/events"

end Endpoint
end SealedPost.Service
