import TypedClient.Text.CaseMap

/-!
# Call model of a generated client

A client either blocks on every request or awaits it.  The mode fixes the HTTP library and the
template of the client module.
-/

namespace TypedClient.Client

/-- How the functions of a client call the service. -/
inductive Mode where
  /-- Blocking functions. -/
  | blocking
  /-- Coroutines. -/
  | awaiting
  deriving DecidableEq

namespace Mode

/-- The word for the mode in settings and output. -/
def name : Mode → String
  | blocking => "sync"
  | awaiting => "async"

/-- The word for the mode in running text. -/
def displayName : Mode → String
  | blocking => "synchronous"
  | awaiting => "asynchronous"

/-- The template of the client module. -/
def clientTemplate : Mode → String
  | blocking => "client_sync.py.tera"
  | awaiting => "client_async.py.tera"

/-- The HTTP library that the client imports. -/
def httpLibrary : Mode → String
  | blocking => "requests"
  | awaiting => "aiohttp"

/-- Reads a mode from any of its words, in whatever case. -/
def ofWord? (word : String) : Option Mode :=
  let w := String.ofList (Text.lowercaseAll word.toList)
  if ["sync", "synchronous", "requests"].contains w then some blocking
  else if ["async", "asynchronous", "aiohttp"].contains w then some awaiting
  else none

/-- Reads a mode from the word that settings files use, exactly as written. -/
def ofName? (word : String) : Option Mode :=
  [blocking, awaiting].find? fun m => m.name == word

theorem ofName?_name (m : Mode) : ofName? m.name = some m := by cases m <;> rfl

end Mode

end TypedClient.Client
