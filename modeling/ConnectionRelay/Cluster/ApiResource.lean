/-
  ConnectionRelay.Cluster.ApiResource
  ───────────────────────────────────
  **THE PLACE OF A KIND IN THE API.**

  An `apiVersion` is a version, or a group and a version with a slash between them.
  The plural of a kind, which stands in paths, is guessed from English spelling.
-/
import ConnectionRelay.Destination

namespace ConnectionRelay.Cluster

/-! ## §1. Plurals. -/

/-- Is it one of the vowels `a e i o u`? -/
def isVowel (c : Char) : Bool :=
  c == 'a' || c == 'e' || c == 'i' || c == 'o' || c == 'u'

/-- Does the text end like that? -/
def endsIn (word ending : List Char) : Bool := ending.isSuffixOf word

/-- The plural of a word in lower case.  For `-y` the character counts that stands as
far from the start as the byte length of the word less two, which is the one before
the `y` in an ASCII word. -/
def pluralOfChars (word : List Char) : List Char :=
  let bytes := (String.ofList word).utf8ByteSize
  if endsIn word ['s'] || endsIn word ['x'] || endsIn word ['z']
      || endsIn word ['c', 'h'] || endsIn word ['s', 'h'] then word ++ ['e', 's']
  else if endsIn word ['y'] && 2 ≤ bytes
      && (word[bytes - 2]?).any fun c => !isVowel c then word.dropLast ++ ['i', 'e', 's']
  else word ++ ['s']

/-- The plural of a kind. -/
def plural (kind : String) : String :=
  let word := String.ofList (kind.toList.map Char.toLower)
  if word = "endpoints" ∨ word = "endpointslices" then word
  else if word = "nodemetrics" then "nodes"
  else if word = "podmetrics" then "pods"
  else String.ofList (pluralOfChars word.toList)

/-! ## §2. Resources. -/

/-- The place of a kind in the API. -/
structure ApiResource where
  group : String
  version : String
  kind : String
  deriving DecidableEq, Repr

namespace ApiResource

/-- The place of a type: the group ends at the first slash. -/
def ofType (type : TypeReference) : ApiResource :=
  let cs := type.apiVersion.toList
  match cs.dropWhile (· ≠ '/') with
  | [] => ⟨"", type.apiVersion, type.kind⟩
  | _ :: version => ⟨String.ofList (cs.takeWhile (· ≠ '/')), String.ofList version, type.kind⟩

/-- The group and the version, or the version alone. -/
def apiVersion (r : ApiResource) : String :=
  if r.group = "" then r.version else r.group ++ "/" ++ r.version

/-- The name in paths. -/
def plural (r : ApiResource) : String := Cluster.plural r.kind

/-- The path of all objects of the kind, in a namespace or the whole cluster. -/
def path (r : ApiResource) (ns : Option String) : String :=
  (if r.group = "" then "/api/" else "/apis/") ++ r.apiVersion ++ "/"
    ++ (match ns with
        | some ns => "namespaces/" ++ ns ++ "/"
        | none => "")
    ++ r.plural

end ApiResource

end ConnectionRelay.Cluster
