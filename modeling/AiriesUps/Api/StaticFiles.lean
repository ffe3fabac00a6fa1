import AiriesUps.Api.Server
import AiriesUps.Lib.CString
import AiriesUps.Lib.PackedBits
import AiriesUps.Lib.Paths

set_option autoImplicit false

namespace AiriesUps.Api

open PackedBits (Byte)
open Paths (Directory Inside resolve)

structure EmbeddedAsset where
  path : List Char
  data : List Byte
  dataGz : Option (List Byte)
  dataBr : Option (List Byte)
  contentType : String
deriving DecidableEq, Repr

structure StaticResponse where
  contentType : String
  encoding : Option String
  body : List Byte
deriving DecidableEq, Repr

-- What fopen gives at a path: fsize as ftell says, whether malloc finds room for it, and
-- what fread can read.
structure DiskFile where
  fsize : Int
  room : Bool
  content : List Byte
deriving DecidableEq, Repr

-- embedded is the table of a build with EMBED_FRONTEND; takes says which responses the
-- library creates and queues.
structure StaticServer where
  embedded : Option (List EmbeddedAsset)
  staticDir : Option (List Char)
  disk : List Char → Option DiskFile
  takes : StaticResponse → Bool

def StaticServer.queue (server : StaticServer) (response : StaticResponse) : Option StaticResponse :=
  if server.takes response then some response else none

def serveEmbedded (server : StaticServer) (acceptEncoding : Option (List Char)) (url : List Char) : Option StaticResponse :=
  let lookup := if url = ['/'] then "/index.html".toList else url
  ((server.embedded.getD []).find? fun asset => asset.path = lookup).bind fun asset =>
    let accepted (name : String) := acceptEncoding.any fun header => (CString.strstr name.toList header).isSome
    match (if accepted "br" then asset.dataBr else none), (if accepted "gzip" then asset.dataGz else none) with
    | some data, _ => server.queue { contentType := asset.contentType, encoding := some "br", body := data }
    | none, some data => server.queue { contentType := asset.contentType, encoding := some "gzip", body := data }
    | none, none => server.queue { contentType := asset.contentType, encoding := none, body := asset.data }

-- snprintf into path[512].
def staticPath (staticDir url : List Char) : List Char :=
  (if url = ['/'] then staticDir ++ "/index.html".toList else staticDir ++ url).take 511

def extension (path : List Char) : Option (List Char) :=
  if '.' ∈ path then some (path.reverse.takeWhile fun char => char ≠ '.').reverse else none

def contentTypeOf (path : List Char) : String :=
  match (extension path).map String.ofList with
  | some "html" => "text/html"
  | some "js" => "application/javascript"
  | some "css" => "text/css"
  | some "json" => "application/json"
  | some "png" => "image/png"
  | some "svg" => "image/svg+xml"
  | some "ico" => "image/x-icon"
  | _ => "application/octet-stream"

-- The response and the paths that were opened for it.
structure Served where
  opened : List (List Char)
  response : Option StaticResponse

def serveFile (server : StaticServer) (path : List Char) : Option StaticResponse :=
  match server.disk path with
  | none => none
  | some file =>
    if file.fsize ≤ 0 then none
    else if !file.room then none
    else
      server.queue { contentType := contentTypeOf path, encoding := none, body := file.content.take file.fsize.toNat }

def tryServeStatic (server : StaticServer) (acceptEncoding : Option (List Char)) (url : List Char) : Served :=
  match serveEmbedded server acceptEncoding url with
  | some response => { opened := [], response := some response }
  | none =>
    match server.staticDir with
    | none => { opened := [], response := none }
    | some staticDir =>
      if (CString.strstr ['.', '.'] url).isSome then { opened := [], response := none }
      else { opened := [staticPath staticDir url], response := serveFile server (staticPath staticDir url) }

-- request_handler for a request no route takes; without a response it is the 204 of a
-- preflight or the 404.
def serveUnrouted (server : StaticServer) (acceptEncoding : Option (List Char)) (method : String) (url : List Char) :
    Served :=
  if method = "OPTIONS" then { opened := [], response := none }
  else if methodFromString method ≠ .get then { opened := [], response := none }
  else
    let static := tryServeStatic server acceptEncoding url
    if static.response.isSome then static
    else if server.staticDir.isSome ∧ ¬"/api/".toList <+: url ∧ '.' ∉ url then
      let page := tryServeStatic server acceptEncoding ['/']
      { opened := static.opened ++ page.opened, response := page.response }
    else static

def Contained (cwd : List Paths.Name) (directory : Directory) (served : Served) : Prop :=
  ∀ path ∈ served.opened, Inside (resolve cwd directory.path) (resolve cwd path)

theorem opened_static (server : StaticServer) (acceptEncoding : Option (List Char)) (url path staticDir : List Char)
    (set : server.staticDir = some staticDir) :
    path ∈ (tryServeStatic server acceptEncoding url).opened ↔
      path = staticPath staticDir url ∧ serveEmbedded server acceptEncoding url = none ∧ ¬['.', '.'] <:+: url := by
  rw [tryServeStatic, ← CString.strstr_found_iff ['.', '.'] url]
  cases serveEmbedded server acceptEncoding url with
  | some response => simp
  | none =>
    simp only [set]
    cases (CString.strstr ['.', '.'] url).isSome <;> simp

theorem cut_below (cwd : List Paths.Name) (directory : Directory) (tail : List Char) (room : directory.path.length < 511)
    (climbless : ¬['.', '.'] <:+: tail) :
    Inside (resolve cwd directory.path) (resolve cwd ((directory.path ++ '/' :: tail).take 511)) := by
  obtain ⟨left, whole⟩ : ∃ left, 511 - directory.path.length = left + 1 := ⟨510 - directory.path.length, by omega⟩
  rw [List.take_append, List.take_of_length_le (Nat.le_of_lt room), whole, List.take_succ_cons]
  exact Paths.directory_below cwd directory _ fun climbs => climbless (climbs.trans (List.take_prefix left tail).isInfix)

theorem cut_beside (cwd : List Paths.Name) (directory : Directory) (char : Char) (rest : List Char)
    (room : directory.path.length < 511) (inner : char ≠ '/') (climbless : ¬['.', '.'] <:+: char :: rest) :
    ¬Inside (resolve cwd directory.path) (resolve cwd ((directory.path ++ char :: rest).take 511)) := by
  obtain ⟨left, whole⟩ : ∃ left, 511 - directory.path.length = left + 1 := ⟨510 - directory.path.length, by omega⟩
  have cut : (char :: rest).take (left + 1) = char :: rest.take left := List.take_succ_cons
  rw [List.take_append, List.take_of_length_le (Nat.le_of_lt room), whole, cut]
  refine Paths.directory_beside cwd directory char _ inner fun climbs => climbless (climbs.trans ?_)
  exact cut ▸ (List.take_prefix (left + 1) (char :: rest)).isInfix

theorem page_inside (cwd : List Paths.Name) (directory : Directory) (room : directory.path.length < 511) :
    Inside (resolve cwd directory.path) (resolve cwd (staticPath directory.path ['/'])) :=
  cut_below cwd directory "index.html".toList room (by decide +kernel)

theorem path_inside (cwd : List Paths.Name) (directory : Directory) (url : List Char) (room : directory.path.length < 511)
    (climbless : ¬['.', '.'] <:+: url) :
    Inside (resolve cwd directory.path) (resolve cwd (staticPath directory.path url)) ↔ url = [] ∨ url.head? = some '/' := by
  cases url with
  | nil =>
    refine ⟨fun _ => Or.inl rfl, fun _ => ?_⟩
    rw [staticPath, if_neg (by decide), List.append_nil, List.take_of_length_le (Nat.le_of_lt room)]
    exact List.prefix_refl _
  | cons char rest =>
    by_cases slash : char = '/'
    · subst slash
      refine ⟨fun _ => Or.inr rfl, fun _ => ?_⟩
      by_cases page : '/' :: rest = ['/']
      · rw [page]
        exact page_inside cwd directory room
      · rw [staticPath, if_neg page]
        refine cut_below cwd directory rest room fun climbs => climbless (climbs.trans (List.suffix_cons _ _).isInfix)
    · constructor
      · intro inside
        rw [staticPath, if_neg fun same => slash (List.cons.inj same).1] at inside
        exact absurd inside (cut_beside cwd directory char rest room slash climbless)
      · rintro (empty | rooted)
        · cases empty
        · exact absurd (Option.some.inj rooted) slash

theorem static_contained (cwd : List Paths.Name) (directory : Directory) (server : StaticServer)
    (acceptEncoding : Option (List Char)) (url : List Char) (set : server.staticDir = some directory.path)
    (room : directory.path.length < 511) :
    Contained cwd directory (tryServeStatic server acceptEncoding url) ↔
      url = [] ∨ url.head? = some '/' ∨ ['.', '.'] <:+: url ∨ (serveEmbedded server acceptEncoding url).isSome = true := by
  have opens := fun path => opened_static server acceptEncoding url path directory.path set
  rw [← or_assoc]
  by_cases climbs : ['.', '.'] <:+: url
  · refine iff_of_true (fun path opened => ?_) (Or.inr (Or.inl climbs))
    exact absurd climbs ((opens path).mp opened).2.2
  cases embedded : serveEmbedded server acceptEncoding url with
  | some response =>
    refine iff_of_true (fun path opened => ?_) (Or.inr (Or.inr rfl))
    rw [((opens path).mp opened).2.1] at embedded
    cases embedded
  | none =>
    have alone : Contained cwd directory (tryServeStatic server acceptEncoding url) ↔
        Inside (resolve cwd directory.path) (resolve cwd (staticPath directory.path url)) := by
      refine ⟨fun contained => contained _ ((opens _).mpr ⟨rfl, embedded, climbs⟩), fun inside path opened => ?_⟩
      rw [((opens path).mp opened).1]
      exact inside
    rw [alone, path_inside cwd directory url room climbs]
    simp [climbs]

-- Everything a request that no route takes can open lies in the static directory, unless
-- its URL has no slash to set it off. A method that request_handler does not know is a GET.
theorem unrouted_contained (cwd : List Paths.Name) (directory : Directory) (server : StaticServer)
    (acceptEncoding : Option (List Char)) (method : String) (url : List Char) (set : server.staticDir = some directory.path)
    (room : directory.path.length < 511) :
    Contained cwd directory (serveUnrouted server acceptEncoding method url) ↔
      (method = "OPTIONS" ∨ methodFromString method ≠ .get) ∨ url = [] ∨ url.head? = some '/' ∨ ['.', '.'] <:+: url ∨
        (serveEmbedded server acceptEncoding url).isSome = true := by
  have nothing : Contained cwd directory { opened := [], response := none } := fun _ opened => by cases opened
  rw [serveUnrouted]
  by_cases preflight : method = "OPTIONS"
  · rw [if_pos preflight]
    exact iff_of_true nothing (Or.inl (Or.inl preflight))
  rw [if_neg preflight]
  by_cases get : methodFromString method = .get
  · have static := static_contained cwd directory server acceptEncoding url set room
    have other : ¬(method = "OPTIONS" ∨ methodFromString method ≠ .get) := not_or.mpr ⟨preflight, not_not_intro get⟩
    rw [if_neg (not_not_intro get), or_iff_right other, ← static]
    dsimp only
    by_cases answered : (tryServeStatic server acceptEncoding url).response.isSome = true
    · rw [if_pos answered]
    · rw [if_neg answered]
      split
      · have page := (static_contained cwd directory server acceptEncoding ['/'] set room).mpr (Or.inr (Or.inl rfl))
        refine ⟨fun both path opened => both path (List.mem_append_left _ opened), fun first path opened => ?_⟩
        rcases List.mem_append.mp opened with own | fallback
        · exact first path own
        · exact page path fallback
      · rfl
  · rw [if_pos get]
    exact iff_of_true nothing (Or.inl (Or.inr get))

-- The directory the daemon serves.
def frontendDist : Directory :=
  { base := "frontend/".toList, name := "dist".toList, ends := Or.inr ⟨"frontend".toList, by decide⟩
    filled := by decide, undotted := by decide, whole := by decide }

def developmentServer : StaticServer :=
  { embedded := none, staticDir := some frontendDist.path, disk := fun _ => none, takes := fun _ => true }

theorem script_contained :
    Contained [['s', 'r', 'v']] frontendDist (serveUnrouted developmentServer none "GET" "/app.js".toList) ∧
      ¬Contained [['s', 'r', 'v']] frontendDist (serveUnrouted developmentServer none "HEAD" "-old/app.js".toList) := by
  have contained := fun method url => unrouted_contained [['s', 'r', 'v']] frontendDist developmentServer none method url rfl (by decide)
  refine ⟨(contained _ _).mpr (Or.inr (Or.inr (Or.inl (by decide)))), fun outside => ?_⟩
  have reached := (contained _ _).mp outside
  revert reached
  decide +kernel

end AiriesUps.Api
