import TypedClient.Loading.Text
import TypedClient.OpenApi.Reading

/-!
# Sources of documents

A document is loaded from the web if its source is a web address, and from a file otherwise.  The
web is a function from addresses to responses, so a run can be given any web it likes, or none.
-/

namespace TypedClient.Loading

open Files (FileTree)
open OpenApi (Document)

/-- The response to a web request. -/
structure Response where
  status : Nat
  /-- The words that stand for the status. -/
  reason : String
  mediaType : Option String
  body : String

/-- Fetches what is at a web address, or says why that fails. -/
abbrev Fetch := String → Except String Response

/-- Whether the source is a web address. -/
def isWebAddress (source : String) : Bool :=
  "http://".toList.isPrefixOf source.toList || "https://".toList.isPrefixOf source.toList

/-- The web of a machine without a connection: well-formed addresses cannot be reached, and no
request can be built for others.  Messages do not show user and password. -/
def offline : Fetch := fun source =>
  match Url.parse source with
  | .ok url => .error ("error sending request for url (" ++ url.withoutUser.text ++ ")")
  | .error _ => .error "builder error"

/-- Whether a status stands for success. -/
def Response.isSuccess (r : Response) : Bool := 200 ≤ r.status && r.status < 300

/-- Reads a document from its text. -/
def readDocument (format : TextFormat) (text : String) : Except GenerationError Document :=
  (format.decode text).bind OpenApi.Document.ofJson

/-- Loads a document from a web address. -/
def loadWeb (fetch : Fetch) (source : String) : Except GenerationError Document :=
  if !isWebAddress source then .error (.loading (.notWeb source))
  else
    match fetch source with
    | .error detail => .error (.loading (.unreachable source detail))
    | .ok response =>
      if response.isSuccess then
        readDocument (.detect source response.mediaType) response.body
      else .error (.loading (.refused source response.status response.reason))

/-- Loads a document from a file. -/
def loadFile (t : FileTree) (source : String) : Except GenerationError Document :=
  match t.read source.toList with
  | .error e => .error (.loading (.unreadable source e))
  | .ok text => readDocument (.detect source none) text

/-- Loads a document from wherever its source says. -/
def load (fetch : Fetch) (t : FileTree) (source : String) : Except GenerationError Document :=
  if isWebAddress source then loadWeb fetch source else loadFile t source

/-- A file is loaded without the web. -/
theorem load_of_not_isWebAddress {source : String} (h : isWebAddress source = false)
    (fetch : Fetch) (t : FileTree) : load fetch t source = loadFile t source := by
  simp [load, h]

end TypedClient.Loading
