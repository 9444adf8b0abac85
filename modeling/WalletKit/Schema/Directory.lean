set_option autoImplicit false

namespace WalletKit.Schema

/-- File texts by name. The first entry of a name counts. -/
abbrev Files := List (String × String)

namespace Files

def get? (files : Files) (name : String) : Option String :=
  (files.find? fun file => file.1 = name).map Prod.snd

def delete (files : Files) (name : String) : Files :=
  files.filter fun file => file.1 ≠ name

def write (files : Files) (name text : String) : Files :=
  (name, text) :: files.delete name

theorem get?_delete_self (files : Files) (name : String) :
    (files.delete name).get? name = none := by
  simp [delete, get?]

theorem get?_delete_of_ne (files : Files) {name other : String} (differs : other ≠ name) :
    (files.delete name).get? other = files.get? other := by
  induction files with
  | nil => rfl
  | cons file rest ih =>
    by_cases same : file.1 = name
    · have elsewhere : file.1 ≠ other := fun h => differs (h.symm.trans same)
      simpa [delete, get?, same, Ne.symm differs, elsewhere] using ih
    · by_cases here : file.1 = other
      · simp [delete, get?, here, differs]
      · simpa [delete, get?, same, here] using ih

theorem get?_write_self (files : Files) (name text : String) :
    (files.write name text).get? name = some text := by
  simp [write, get?]

theorem get?_write_of_ne (files : Files) {name other : String} (differs : other ≠ name)
    (text : String) : (files.write name text).get? other = files.get? other := by
  rw [← get?_delete_of_ne files differs]
  simp [write, get?, Ne.symm differs]

end Files

/-- The name of a directory and of those around it, nearest first, as far as they are known. -/
abbrev Place := List String

namespace Place

/-- Whether steps that start in `place` end in the directory that `back` leads to from there. -/
def arrives (place : Place) (back : List String) : List String → Bool
  | [] => back.isEmpty
  | step :: steps =>
    if step = "" ∨ step = "." then arrives place back steps
    else if step = ".." then
      match place with
      | [] => false
      | name :: around => arrives around (name :: back) steps
    else
      match back with
      | [] => false
      | name :: back => name = step && arrives (name :: place) back steps

/-- The name at the end of a path that leads to a file in `place`. A path that begins with a slash
starts elsewhere. -/
def fileName? (place : Place) (path : String) : Option String :=
  let parts := (path.toList.splitOn '/').map String.ofList
  if path.toList.head? ≠ some '/' ∧ place.arrives [] parts.dropLast then parts.getLast? else none

theorem fileName?_eq_self (place : Place) {name : String} (plain : '/' ∉ name.toList) :
    place.fileName? name = some name := by
  have inside : name.toList.head? ≠ some '/' := fun h => plain (List.mem_of_head? h)
  simp [fileName?, List.splitOn_eq_singleton plain, inside, arrives]

end Place

structure Directory where
  place : Place := ["schema"]
  files : Files := []
  deriving Repr

namespace Directory

def get? (d : Directory) (path : String) : Option String :=
  (d.place.fileName? path).bind d.files.get?

/-- A path that leads elsewhere deletes nothing. -/
def delete (d : Directory) (path : String) : Directory :=
  match d.place.fileName? path with
  | none => d
  | some name => { d with files := d.files.delete name }

def write (d : Directory) (path text : String) : Directory :=
  match d.place.fileName? path with
  | none => d
  | some name => { d with files := d.files.write name text }

def ofFiles (files : List (String × String)) : Directory :=
  files.foldl (fun d file => d.write file.1 file.2) {}

theorem get?_delete_self (d : Directory) (path : String) : (d.delete path).get? path = none := by
  unfold delete
  split
  · simp [get?, *]
  · simp [get?, Files.get?_delete_self, *]

theorem get?_delete_of_ne (d : Directory) {path other : String}
    (differs : d.place.fileName? other ≠ d.place.fileName? path) :
    (d.delete path).get? other = d.get? other := by
  unfold delete
  split
  · rfl
  · next name found =>
    cases sought : d.place.fileName? other with
    | none => simp [get?, sought]
    | some wanted =>
      have elsewhere : wanted ≠ name := fun h => differs (by rw [sought, found, h])
      simp [get?, sought, Files.get?_delete_of_ne d.files elsewhere]

theorem get?_write_self (d : Directory) {path name : String}
    (found : d.place.fileName? path = some name) (text : String) :
    (d.write path text).get? path = some text := by
  simp [write, get?, found, Files.get?_write_self]

theorem get?_write_of_ne (d : Directory) {path other : String}
    (differs : d.place.fileName? other ≠ d.place.fileName? path) (text : String) :
    (d.write path text).get? other = d.get? other := by
  unfold write
  split
  · rfl
  · next name found =>
    cases sought : d.place.fileName? other with
    | none => simp [get?, sought]
    | some wanted =>
      have elsewhere : wanted ≠ name := fun h => differs (by rw [sought, found, h])
      simp [get?, sought, Files.get?_write_of_ne d.files elsewhere]

end Directory

end WalletKit.Schema
