/-!
# Short names

A directory record names its file by eight bytes and an extension of three, both filled up with
spaces. A path denotes such a name if it is one component long: at most eight bytes, then possibly
a dot and at most three more. The first dot divides the two; later ones belong to the extension. A
slash is refused wherever it stands, and letter case is kept.
-/

namespace BootDisk

/-- The name fields of a directory record, filled up with spaces. -/
structure ShortName where
  base : Vector UInt8 8
  extension : Vector UInt8 3
  deriving DecidableEq

namespace ShortName

/-- The byte that fills a field up. -/
def space : UInt8 := 0x20

/-- The byte between name and extension in a path. -/
def dot : UInt8 := 0x2E

/-- The byte that divides the components of a path. -/
def slash : UInt8 := 0x2F

/-- A field of `width` bytes that starts with `text` and is filled up with spaces. -/
def pad (width : Nat) (text : List UInt8) : Vector UInt8 width :=
  Vector.ofFn fun i => text.getD i space

/-- What a field holds in front of its trailing spaces. -/
def trim (field : List UInt8) : List UInt8 :=
  (field.reverse.dropWhile (· == space)).reverse

/-- Takes bytes from the front of a path until one that `ends` holds of comes next or `room` bytes
are taken, and gives them with what is left. A slash among them is refused. -/
def component (ends : UInt8 → Bool) : (room : Nat) → List UInt8 → Option (List UInt8 × List UInt8)
  | 0, path => some ([], path)
  | _ + 1, [] => some ([], [])
  | room + 1, byte :: path =>
    if ends byte then some ([], byte :: path)
    else if byte = slash then none
    else (component ends room path).map fun (taken, left) => (byte :: taken, left)

/-- The short name that the bytes of a path denote. -/
def ofBytes? (path : List UInt8) : Option ShortName := do
  let (base, rest) ← component (· == dot) 8 path
  match rest with
  | [] => some ⟨pad 8 base, pad 3 []⟩
  | byte :: rest =>
    if byte = dot then
      let (extension, left) ← component (fun _ => false) 3 rest
      if left.isEmpty then some ⟨pad 8 base, pad 3 extension⟩ else none
    else
      none

/-- The short name that a path denotes, byte for byte of its encoding. -/
def ofPath? (path : String) : Option ShortName :=
  ofBytes? path.toUTF8.data.toList

/-- A name as it is shown: trailing spaces dropped, a dot only in front of an extension, and each
byte as the character of the same number. -/
def display (name : ShortName) : String :=
  let base := trim name.base.toList
  let extension := trim name.extension.toList
  let shown := if extension.isEmpty then base else base ++ dot :: extension
  String.ofList (shown.map Char.ofUInt8)

end ShortName

end BootDisk
