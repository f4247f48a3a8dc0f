/-
ShaderRecords.Text.Picture — pictures written by their names.

A name between two colons stands for a picture: `:smile:`. The name may be followed by `-emoji` or `-text`,
which asks for a coloured or a plain shape. Small and capital letters count as equal, and a name that is
not known stays as it is written, colons included.
-/
import ShaderRecords.Text.CaseMapping
import ShaderRecords.Text.PictureTable

namespace ShaderRecords.Text

/-- Names with the pictures behind them. -/
def namedPictures : List String → List (String × String)
  | name :: picture :: rest => (name, picture) :: namedPictures rest
  | _ => []

/-- All names with their pictures. -/
def pictures : List (String × String) :=
  pictureLines.flatMap fun line => namedPictures (line.splitOn " ")

/-- The picture of a name. -/
def picture? (name : String) : Option String :=
  pictures.lookup name

/-- The shapes that can be asked for, each with the character that does so. -/
def pictureShapes : List (String × Char) :=
  [("-emoji", '\uFE0F'), ("-text", '\uFE0E')]

/-- A name without the shape that it asks for, and the character for the shape. -/
def splitShape (name : List Char) : List Char × List Char :=
  match pictureShapes.find? fun shape => shape.1.toList.isSuffixOf name with
  | some (ending, mark) => (name.take (name.length - ending.length), [mark])
  | none => (name, [])

/-- What stands between colons, put in place of it and of the colons. -/
def showName (name : List Char) : List Char :=
  let (plain, shape) := splitShape name
  match picture? (lower (String.ofList plain)) with
  | some picture => picture.toList ++ shape
  | none => ':' :: name ++ [':']

/-- The characters up to the next colon and those behind it, if there is no blank before it. -/
def untilColon? : List Char → Option (List Char × List Char)
  | [] => none
  | c :: rest =>
    if c = ':' then some ([], rest)
    else if isBlank c then none
    else (untilColon? rest).map fun (name, after) => (c :: name, after)

theorem length_of_untilColon {s name after : List Char} (h : untilColon? s = some (name, after)) :
    after.length < s.length := by
  induction s generalizing name with
  | nil => simp [untilColon?] at h
  | cons c rest ih =>
    unfold untilColon? at h
    split at h
    · simp_all
    · split at h
      · simp at h
      · obtain ⟨⟨n, a⟩, hr, he⟩ := Option.map_eq_some_iff.1 h
        simp only [Prod.mk.injEq] at he
        obtain ⟨-, rfl⟩ := he
        have := ih hr
        simp only [List.length_cons]
        omega

/-- A text with pictures in place of their names. -/
def showPictures : List Char → List Char
  | [] => []
  | c :: rest =>
    if c = ':' then
      match h : untilColon? rest with
      | some (name, after) =>
        have := length_of_untilColon h
        showName name ++ showPictures after
      | none => c :: showPictures rest
    else c :: showPictures rest
termination_by s => s.length

end ShaderRecords.Text
