import RingServer.Library.Paths
import RingServer.Protocols.HttpProtocol

set_option autoImplicit false

namespace RingServer.Http

open Library Net

inductive Entry where
  | directory
  | file (data : List UInt8)
  | unreadable

-- What there is under the names below the root; there are no symbolic links.
abbrev FileSystem := List Text → Option Entry

-- upper is the case mapping of OrdinalIgnoreCase, which leaves the slash alone.
structure Platform where
  currentDirectory : Text
  upper : Char → Char
  slash : ∀ c, upper c = '/' ↔ c = '/'

def startsWithIgnoreCase (upper : Char → Char) (text start : Text) : Bool := (start.map upper).isPrefixOf (text.map upper)

-- Path.GetExtension
def getExtension (path : Text) : Text :=
  let name := path.rtakeWhile (· ≠ '/')
  if name.contains '.' ∧ name.getLast? ≠ some '.' then '.' :: name.rtakeWhile (· ≠ '.') else []

def contentTypes : List (String × String) :=
  [(".html", "text/html"), (".css", "text/css"), (".js", "application/javascript"), (".json", "application/json"),
    (".png", "image/png"), (".jpg", "image/jpeg"), (".jpeg", "image/jpeg"), (".gif", "image/gif"), (".svg", "image/svg+xml"),
    (".ico", "image/x-icon"), (".txt", "text/plain"), (".xml", "application/xml"), (".zip", "application/zip"),
    (".gz", "application/gzip")]

def getContentType (filePath : Text) : Text :=
  (((contentTypes.find? fun row => row.1.toList = (getExtension filePath).map Char.toLower).map Prod.snd).getD
    "application/octet-stream").toList

-- The path of ServeStaticFile and its check; none is an exception, some none is Forbidden.
def locate (platform : Platform) (webRoot path : Text) : Option (Option FullPath) := do
  let filePath ← getFullPath platform.currentDirectory (combine webRoot path)
  let root ← getFullPath platform.currentDirectory webRoot
  if startsWithIgnoreCase platform.upper filePath.text root.text then some (some filePath) else some none

-- File.Exists and ReadAllBytes: a path that ends in a slash is no file.
def fetch (files : FileSystem) (filePath : FullPath) : WebFile :=
  if filePath.directory then .missing
  else match files filePath.names with
    | some (.file data) => .file (getContentType filePath.text) data
    | some .unreadable => .unreadable
    | _ => .missing

def lookUpFile (platform : Platform) (files : FileSystem) (webRoot path : Text) : Option WebFile :=
  (locate platform webRoot path).map fun found => found.elim .outside (fetch files)

def Surroundings.on (web : Surroundings) (platform : Platform) (files : FileSystem) : Surroundings :=
  { web with lookUp := lookUpFile platform files }

def staticPath (web : Surroundings) (recvBuffer : List UInt8) : Option Text :=
  match requestLine (decodeASCII recvBuffer) with
  | method :: path :: _ =>
      if toUpperInvariant method = "GET".toList then
        if path = "/".toList ∨ path = "/index.html".toList then if (web.webRoot.getD []).isEmpty then none else some path
        else if web.startsWith path "/info".toList then none
        else if web.startsWith path "/streams".toList then none
        else some path
      else none
  | _ => none

def Surroundings.root (web : Surroundings) : Text := web.webRoot.getD ['.']

def sentFile (web : Surroundings) (platform : Platform) (files : FileSystem) (recvBuffer : List UInt8) : Option (List Text) := do
  let path ← staticPath web recvBuffer
  let found ← locate platform web.root (path.dropWhile (· = '/'))
  let filePath ← found
  match fetch files filePath with
  | .file _ _ => some filePath.names
  | _ => none

def SameBelow (platform : Platform) (webRoot : Text) (files files' : FileSystem) : Prop :=
  ∀ root, getFullPath platform.currentDirectory webRoot = some root → ∀ names, root.names <+: names → files names = files' names

-- The content of a file is sent only where the file is below the web root, and what is
-- elsewhere does not show.
structure Confined (web : Surroundings) (platform : Platform) (recvBuffer : List UInt8) : Prop where
  own : ∀ files names root, sentFile web platform files recvBuffer = some names →
    getFullPath platform.currentDirectory web.root = some root → root.names <+: names
  alike : ∀ files files', SameBelow platform web.root files files' → ∀ clock ring reader,
    handleRequest (web.on platform files) clock ring reader recvBuffer = handleRequest (web.on platform files') clock ring reader recvBuffer

-- A path, its relative parts resolved, that is a directory's, stays below the web root, or has
-- another name, case aside, on the way to it.
def StaysInside (platform : Platform) (webRoot path : Text) : Prop :=
  ∀ root filePath, getFullPath platform.currentDirectory webRoot = some root →
    getFullPath platform.currentDirectory (combine webRoot path) = some filePath →
    filePath.directory = true ∨ root.names <+: filePath.names ∨ ¬ Resembles platform.upper root.parts filePath.parts

theorem starts_iff (platform : Platform) (filePath root : FullPath) :
    startsWithIgnoreCase platform.upper filePath.text root.text = true ↔ Resembles platform.upper root.parts filePath.parts := by
  rw [startsWithIgnoreCase, List.isPrefixOf_iff_prefix]
  exact text_begins_iff platform.upper platform.slash root.parts filePath.parts (parts_whole root) (parts_whole filePath)

theorem locate_cases (platform : Platform) (webRoot path : Text) (filePath : FullPath)
    (found : locate platform webRoot path = some (some filePath)) :
    ∃ root, getFullPath platform.currentDirectory webRoot = some root ∧
      getFullPath platform.currentDirectory (combine webRoot path) = some filePath ∧
      Resembles platform.upper root.parts filePath.parts := by
  rw [locate] at found
  obtain ⟨full, isFull, found⟩ := Option.bind_eq_some_iff.mp found
  obtain ⟨root, isRoot, found⟩ := Option.bind_eq_some_iff.mp found
  split at found
  · next starts =>
    obtain rfl := Option.some.inj (Option.some.inj found)
    exact ⟨root, isRoot, isFull, (starts_iff platform full root).mp starts⟩
  · cases found

theorem located (platform : Platform) (webRoot path : Text) (root filePath : FullPath)
    (isRoot : getFullPath platform.currentDirectory webRoot = some root)
    (isFull : getFullPath platform.currentDirectory (combine webRoot path) = some filePath)
    (resembles : Resembles platform.upper root.parts filePath.parts) : locate platform webRoot path = some (some filePath) := by
  rw [locate, isFull, isRoot]
  exact if_pos ((starts_iff platform filePath root).mpr resembles)

theorem static_request (web : Surroundings) (recvBuffer : List UInt8) (path : Text) (isStatic : staticPath web recvBuffer = some path)
    (clock : Nat → NsTime) (ring : RingParams) (reader : RingReader) :
    handleRequest web clock ring reader recvBuffer = (serveStaticFile web path).map (.only ring) := by
  have lines : (requestLines (decodeASCII recvBuffer)).isEmpty = false := by
    cases isLines : requestLines (decodeASCII recvBuffer) with
    | cons line rest => rfl
    | nil =>
        rw [staticPath, requestLine, isLines] at isStatic
        cases isStatic
  rw [staticPath] at isStatic
  rw [handleRequest, lines]
  generalize requestLine (decodeASCII recvBuffer) = parts at isStatic ⊢
  rcases parts with _ | ⟨method, _ | ⟨request, behind⟩⟩
  · cases isStatic
  · cases isStatic
  · dsimp only at isStatic ⊢
    split at isStatic
    · next get =>
      rw [if_pos get, handleGet]
      split at isStatic
      · next index =>
        rw [if_pos index]
        split at isStatic
        · cases isStatic
        · next set =>
          cases isStatic
          rw [if_neg set]
          rfl
      · next index =>
        rw [if_neg index]
        split at isStatic
        · cases isStatic
        · next info =>
          rw [if_neg info]
          split at isStatic
          · cases isStatic
          · next streams =>
            cases isStatic
            rw [if_neg streams]
            rfl
    · cases isStatic

theorem other_request (web : Surroundings) (recvBuffer : List UInt8) (other : staticPath web recvBuffer = none)
    (clock : Nat → NsTime) (ring : RingParams) (reader : RingReader) (found : Text → Text → Option WebFile) :
    handleRequest { web with lookUp := found } clock ring reader recvBuffer = handleRequest web clock ring reader recvBuffer := by
  rw [staticPath] at other
  rw [handleRequest, handleRequest]
  generalize requestLine (decodeASCII recvBuffer) = parts at other ⊢
  rcases parts with _ | ⟨method, _ | ⟨request, behind⟩⟩
  · rfl
  · rfl
  · dsimp only at other ⊢
    split at other
    · next get =>
      rw [if_pos get, if_pos get, handleGet, handleGet]
      split at other
      · next index =>
        rw [if_pos index, if_pos index]
        split at other
        · next unset =>
          dsimp only
          rw [if_pos unset, if_pos unset]
          rfl
        · cases other
      · next index =>
        rw [if_neg index, if_neg index]
        dsimp only
        split at other
        · next info =>
          rw [if_pos info, if_pos info]
          rfl
        · next info =>
          rw [if_neg info, if_neg info]
          split at other
          · next streams =>
            rw [if_pos streams, if_pos streams]
            rfl
          · cases other
    · next get =>
      rw [if_neg get, if_neg get]
      rfl

theorem fetched_file (files : FileSystem) (filePath : FullPath) (contentType : Text) (data : List UInt8)
    (fetched : fetch files filePath = .file contentType data) :
    filePath.directory = false ∧ files filePath.names = some (.file data) := by
  rw [fetch] at fetched
  split at fetched
  · cases fetched
  · next file =>
    split at fetched
    · next entry =>
      cases fetched
      exact ⟨Bool.eq_false_iff.mpr file, entry⟩
    · cases fetched
    · cases fetched

theorem sent_located (web : Surroundings) (platform : Platform) (files : FileSystem) (recvBuffer : List UInt8) (names : List Text)
    (sent : sentFile web platform files recvBuffer = some names) :
    ∃ path filePath contentType data, staticPath web recvBuffer = some path ∧
      locate platform web.root (path.dropWhile (· = '/')) = some (some filePath) ∧ filePath.names = names ∧
      fetch files filePath = .file contentType data := by
  rw [sentFile] at sent
  obtain ⟨path, isStatic, sentPath⟩ := Option.bind_eq_some_iff.mp sent
  obtain ⟨found, isFound, sentFound⟩ := Option.bind_eq_some_iff.mp sentPath
  obtain ⟨filePath, rfl, sentNames⟩ := Option.bind_eq_some_iff.mp sentFound
  cases fetched : fetch files filePath with
  | file contentType data =>
      rw [fetched] at sentNames
      exact ⟨path, filePath, contentType, data, isStatic, isFound, Option.some.inj sentNames, fetched⟩
  | outside =>
      rw [fetched] at sentNames
      cases sentNames
  | missing =>
      rw [fetched] at sentNames
      cases sentNames
  | unreadable =>
      rw [fetched] at sentNames
      cases sentNames

theorem fetch_alike (files files' : FileSystem) (filePath : FullPath)
    (same : filePath.directory = true ∨ files filePath.names = files' filePath.names) : fetch files filePath = fetch files' filePath := by
  rw [fetch, fetch]
  rcases same with directory | same
  · rw [if_pos directory, if_pos directory]
  · rw [same]

theorem look_up_alike (platform : Platform) (webRoot path : Text) (inside : StaysInside platform webRoot path) (files files' : FileSystem)
    (same : SameBelow platform webRoot files files') : lookUpFile platform files webRoot path = lookUpFile platform files' webRoot path := by
  rw [lookUpFile, lookUpFile]
  cases isFound : locate platform webRoot path with
  | none => rfl
  | some found =>
      cases found with
      | none => rfl
      | some filePath =>
          obtain ⟨root, isRoot, isFull, resembles⟩ := locate_cases platform webRoot path filePath isFound
          refine congrArg some (fetch_alike files files' filePath ?_)
          rcases inside root filePath isRoot isFull with directory | below | other
          · exact .inl directory
          · exact .inr (same root isRoot filePath.names below)
          · exact absurd resembles other

def onlyFile (names : List Text) : FileSystem := fun other => if other = names then some (.file []) else none

-- A request is confined exactly where it does not come to ServeStaticFile or its path stays
-- inside the web root.
theorem confined_iff (web : Surroundings) (platform : Platform) (recvBuffer : List UInt8) :
    Confined web platform recvBuffer ↔
      ∀ path, staticPath web recvBuffer = some path → StaysInside platform web.root (path.dropWhile (· = '/')) := by
  constructor
  · intro confined path isStatic root filePath isRoot isFull
    by_contra outside
    rw [not_or, not_or, not_not] at outside
    obtain ⟨file, elsewhere, resembles⟩ := outside
    have isFound := located platform web.root _ root filePath isRoot isFull resembles
    have fetched : fetch (onlyFile filePath.names) filePath = .file (getContentType filePath.text) [] := by
      rw [fetch, if_neg file, onlyFile, if_pos rfl]
    have sent : sentFile web platform (onlyFile filePath.names) recvBuffer = some filePath.names := by
      rw [sentFile, isStatic]
      show (locate platform web.root (path.dropWhile (· = '/'))).bind _ = _
      rw [isFound]
      show (match fetch (onlyFile filePath.names) filePath with
        | .file _ _ => some filePath.names
        | _ => none) = _
      rw [fetched]
    exact elsewhere (confined.own _ _ root sent isRoot)
  · intro inside
    constructor
    · intro files names root sent isRoot
      obtain ⟨path, filePath, contentType, data, isStatic, isFound, rfl, fetched⟩ := sent_located web platform files recvBuffer names sent
      obtain ⟨root', isRoot', isFull, resembles⟩ := locate_cases platform web.root _ filePath isFound
      rw [isRoot] at isRoot'
      obtain rfl := Option.some.inj isRoot'
      rcases inside path isStatic root filePath isRoot isFull with directory | below | other
      · rw [(fetched_file files filePath contentType data fetched).1] at directory
        cases directory
      · exact below
      · exact absurd resembles other
    · intro files files' same clock ring reader
      cases isStatic : staticPath web recvBuffer with
      | none => exact (other_request web recvBuffer isStatic clock ring reader _).trans (other_request web recvBuffer isStatic clock ring reader _).symm
      | some path =>
          rw [static_request (web.on platform files) recvBuffer path isStatic, static_request (web.on platform files') recvBuffer path isStatic]
          have alike := look_up_alike platform web.root _ (inside path isStatic) files files' same
          refine congrArg (Option.map (Outcome.only ring)) ?_
          show (lookUpFile platform files web.root (path.dropWhile (· = '/'))).map _ = (lookUpFile platform files' web.root _).map _
          rw [alike]
          rfl

def appPlatform : Platform where
  currentDirectory := "/app".toList
  upper := Char.toUpper
  slash c := by
    refine ⟨upper_plain c '/' (by decide), ?_⟩
    rintro rfl
    rfl

def serving (webRoot : Text) : Surroundings where
  startsWith text start := start.isPrefixOf text
  indexOf _ _ := none
  webRoot := some webRoot
  lookUp _ _ := none
  infoPage _ _ := []
  httpHeaders := []
  newLine := ['\n']

-- The web root is /srv/www, and what is sent is a file of /srv/www2.
theorem sibling_file_sent : ¬ Confined (serving "/srv/www".toList) appPlatform (encodeASCII "GET /../www2/key HTTP/1.1\r\n\r\n".toList) := by
  intro confined
  have root : (getFullPath "/app".toList "/srv/www".toList).map FullPath.names = some ["srv".toList, "www".toList] := by decide +kernel
  obtain ⟨webRoot, isRoot, names⟩ := Option.map_eq_some_iff.mp root
  have below := confined.own (onlyFile ["srv".toList, "www2".toList, "key".toList]) ["srv".toList, "www2".toList, "key".toList] webRoot
    (by decide +kernel) isRoot
  rw [names] at below
  exact absurd below (by decide)

end RingServer.Http
