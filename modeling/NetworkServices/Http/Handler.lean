import NetworkServices.Foundation.Stores
import NetworkServices.Foundation.TextInput

/-! The function `connection_handler` of the HTTP server `server5.cpp`: how it reads a
request, what it stores where, and what it replies. -/

set_option autoImplicit false

namespace NetworkServices.Http

def MAX_CLIENT_MESSAGE : Nat := 2000
def MAX_BUFFOR_SIZE : Nat := 512

def WORD_SIZE : Nat := 256

/-- The arrays of the handler, and the block of memory `p`. -/
inductive Target where
  | client_message
  | method
  | url
  | protocol
  | p
  | buff_send
  deriving DecidableEq

structure Request where
  bytes : List UInt8
  nonempty : bytes ≠ []
  fits : bytes.length ≤ MAX_CLIENT_MESSAGE

/-- The result of `recv`: -1, 0, or a request. -/
inductive Recv where
  | failed
  | closed
  | request (request : Request)

/-- An array without an initialiser, with what stands in memory behind it. -/
structure Uninitialised (size : Nat) where
  buffer : Buffer size
  beyond : List UInt8

def Uninitialised.text {size : Nat} (array : Uninitialised size) : CString :=
  array.buffer.text array.beyond

/-- What the handler finds: its local arrays, the memory from the start of a new block of
a given size on, where there is such a block, and the names in the directory `img/`,
where it can be opened. -/
structure Surroundings where
  method : Uninitialised WORD_SIZE
  url : Uninitialised WORD_SIZE
  protocol : Uninitialised WORD_SIZE
  buff_send : Uninitialised MAX_BUFFOR_SIZE
  malloc : Nat → Option (List UInt8)
  directory : Option (List CString)

/-- `sscanf(client_message, "%s %s %s", method, url, protocol)`: the words it finds. -/
def words (request : Request) : List CString :=
  scanWords 3 (cString request.bytes)

/-- The string in an array into which `sscanf` was to store a word. -/
def scanned (word : Option CString) (array : Uninitialised WORD_SIZE) : CString :=
  word.getD array.text

def method (surroundings : Surroundings) (request : Request) : CString :=
  scanned (words request)[0]? surroundings.method

def url (surroundings : Surroundings) (request : Request) : CString :=
  scanned (words request)[1]? surroundings.url

def protocol (surroundings : Surroundings) (request : Request) : CString :=
  scanned (words request)[2]? surroundings.protocol

section Page

def blank_response_header : CString :=
  ascii "HTTP/1.0 200 OK\nContent-Type: image\nContent-Length:512\n\n"

/-- Whether a file is listed. Without a '/' in `p` these are the files whose names contain
`p`, else the pictures. -/
def isListed (p d_name : CString) : Bool :=
  if d_name = ascii "." ∨ d_name = ascii ".." then false
  else if 47 ∉ p then strstr d_name p
  else strstr d_name (ascii ".png") || strstr d_name (ascii ".jpg") || strstr d_name (ascii ".jpeg")

/-- The texts that `strcat` appends to the header. -/
def body (p : CString) (names : List CString) : List CString :=
  [ascii "<HTML><BODY><CENTER>"] ++
    (names.filter (isListed p)).flatMap
      (fun d_name => [ascii "<IMG SRC='", d_name, ascii "'/></IMG><BR />"]) ++
    [ascii "</CENTER></BODY></HTML>"]

def page (p : CString) (names : List CString) : CString :=
  blank_response_header ++ (body p names).flatten

end Page

/-- `strlen(url) - 1`, which has the type `size_t`. -/
def pathSize (url : CString) : Nat :=
  (UInt64.ofNat url.length - 1).toNat

def path (url : CString) : CString := url.drop 1

section Stores

/-- `recv` stores the request, and a terminator is put behind it. -/
def receiveStores (request : Request) : List (Store Target) :=
  [⟨.client_message, MAX_CLIENT_MESSAGE, 0, request.bytes.length⟩,
    ⟨.client_message, MAX_CLIENT_MESSAGE, request.bytes.length, 1⟩]

def scanStores (target : Target) (word : Option CString) : List (Store Target) :=
  word.toList.map (storeText target WORD_SIZE)

/-- `text[strlen(text)] = '\0'`. -/
def terminate (target : Target) (text : CString) : Store Target :=
  ⟨target, WORD_SIZE, text.length, 1⟩

def wordStores (surroundings : Surroundings) (request : Request) : List (Store Target) :=
  scanStores .method (words request)[0]? ++ scanStores .url (words request)[1]? ++
    scanStores .protocol (words request)[2]? ++
    [terminate .method (method surroundings request), terminate .url (url surroundings request),
      terminate .protocol (protocol surroundings request)]

/-- The block `p` is cleared as far as the string that it happens to hold, `url` is
copied to it, and a terminator is put behind. -/
def pathStores (url : CString) (block : List UInt8) : List (Store Target) :=
  ⟨.p, pathSize url, 0, (cString block).length⟩ ::
    ((List.range (url.length - 1)).map fun i => ⟨.p, pathSize url, i, 1⟩) ++
      [⟨.p, pathSize url, (url.length : Int) - 1, 1⟩]

/-- `memset(buff_send, 0, sizeof(buff_send))`. -/
def clear : Store Target := ⟨.buff_send, MAX_BUFFOR_SIZE, 0, MAX_BUFFOR_SIZE⟩

def pageStores (p : CString) (names : List CString) : List (Store Target) :=
  [clear, storeText .buff_send MAX_BUFFOR_SIZE blank_response_header] ++
    appendTexts .buff_send MAX_BUFFOR_SIZE blank_response_header.length (body p names) ++
      [⟨.buff_send, MAX_BUFFOR_SIZE, (page p names).length, 1⟩]

end Stores

/-- What a request comes to: the process exits, a null pointer is read, or there is a text
to be sent. -/
inductive Answer where
  | exits
  | crashes
  | reply (text : CString)

/-- Between `sscanf` and `write`, with everything that is stored. Each array is taken to
hold what was stored in it, also where that does not fit. -/
def answer (surroundings : Surroundings) (request : Request) : List (Store Target) × Answer :=
  if protocol surroundings request = ascii "HTTP/1.1" then
    match surroundings.malloc (pathSize (url surroundings request)) with
    | none => ([], .crashes)
    | some block =>
        let stored := pathStores (url surroundings request) block
        match surroundings.directory with
        | none => (stored, .exits)
        | some names =>
            (stored ++ pageStores (path (url surroundings request)) names,
              .reply (page (path (url surroundings request)) names))
  else ([], .reply surroundings.buff_send.text)

inductive Ending where
  | returns
  | exits
  | crashes
  deriving DecidableEq

structure Handled where
  stores : List (Store Target)
  sent : Option CString
  ending : Ending

/-- A `write` that fails ends the process, by the signal `SIGPIPE` or by `exit`. -/
def connection_handler (surroundings : Surroundings) (recv : Recv) (written : Bool) : Handled :=
  match recv with
  | .failed | .closed => ⟨[], none, .exits⟩
  | .request request =>
      let (stored, answered) := answer surroundings request
      let stores := receiveStores request ++ wordStores surroundings request ++ stored
      match answered with
      | .exits => ⟨stores, none, .exits⟩
      | .crashes => ⟨stores, none, .crashes⟩
      | .reply text =>
          if written then ⟨stores ++ [clear], some text, .returns⟩ else ⟨stores, some text, .exits⟩

end NetworkServices.Http
