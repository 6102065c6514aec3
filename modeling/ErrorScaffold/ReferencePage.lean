/-
The reference page that tag names are taken from.

What fetching a page yields is a `Fetch`: the server has no address, no connection comes about, or
the server answers with a status and a body that may break off.  `Fetch.page` is the text of the
page or the reason why there is none; `TagFile.ofFetch` is the tag file of its names, of which there
has to be one.  A text that is no address of a page is rejected before anything is fetched.
-/
import ErrorScaffold.Page.TagName
import ErrorScaffold.SystemFault
import ErrorScaffold.TagFile
import ErrorScaffold.Text.Utf8
import ErrorScaffold.Url

namespace ErrorScaffold

/-- What came of a request for a page. -/
inductive Fetch
  /-- The name of the server stands for no address. -/
  | unresolved
  /-- No connection to the server. -/
  | unconnected (fault : SystemFault)
  /-- The server's answer, with the number of bytes that it announced and did not send. -/
  | answered (status : Nat) (body : List UInt8) (missing : Nat)
  deriving DecidableEq, Repr

/-- Why there is no page. -/
inductive NetworkFault
  | rejected (address : String)
  | unresolved (url : Url)
  | unconnected (url : Url) (fault : SystemFault)
  | status (url : Url) (code : Nat)
  | bodyBrokeOff
  deriving DecidableEq, Repr

def NetworkFault.message : NetworkFault → String
  | rejected address => address ++ ": Bad URL"
  | unresolved url => url.text ++ ": Dns Failed"
  | unconnected url fault => url.text ++ ": Connection Failed: Connect error: " ++ fault.message
  | status url code => url.text ++ ": status code " ++ toString code
  | bodyBrokeOff =>
    "failed to read response body: response body closed before all bytes were read"

/-- Why there is no tag file. -/
inductive ReferenceError
  | network (fault : NetworkFault)
  | noMatch (address : String)
  | unwritable (fault : SystemFault)
  deriving DecidableEq, Repr

namespace ReferenceError

def message : ReferenceError → String
  | network fault => "failed to fetch tag reference: " ++ fault.message
  | noMatch address => "no tag names found at " ++ address
  | unwritable fault => "failed to write tag file: " ++ fault.message

def code : ReferenceError → String
  | network _ => "sptgen::harvest::network"
  | noMatch _ => "sptgen::harvest::no_match"
  | unwritable _ => "sptgen::harvest::io"

def help? : ReferenceError → Option String
  | noMatch _ =>
    some "The reference page layout may have changed; check the .standard-table markup."
  | network _ => none
  | unwritable _ => none

end ReferenceError

/-- The HTML element reference, which is asked where no other page is given. -/
def referenceAddress : String :=
  "https://developer.mozilla.org/en/docs/Web/HTML/Element"

/-- What to ask for a page. -/
def Url.ofAddress (address : String) : Except ReferenceError Url :=
  match Url.parse? address with
  | some url => .ok url
  | none => .error (.network (.rejected address))

/-- The text of the page at `url`.  A status that announces an error counts before the body. -/
def Fetch.page (url : Url) : Fetch → Except NetworkFault String
  | unresolved => .error (.unresolved url)
  | unconnected fault => .error (.unconnected url fault)
  | answered status body missing =>
    if 400 ≤ status then .error (.status url status)
    else if missing ≠ 0 then .error .bodyBrokeOff
    else .ok (String.ofList (Text.decodeLossy body))

/-- The tag file of the page at `url`, which was given as `address`. -/
def TagFile.ofFetch (address : String) (url : Url) (fetch : Fetch) :
    Except ReferenceError TagFile :=
  match fetch.page url with
  | .error fault => .error (.network fault)
  | .ok page =>
    let names := Page.tagNames page
    if names.isEmpty then .error (.noMatch address) else .ok (.ofNames names)

end ErrorScaffold
