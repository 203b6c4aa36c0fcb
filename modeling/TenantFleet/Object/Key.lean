import TenantFleet.Text.Quoted

/-!
# Object keys

An object is named by the namespace that it lives in, its scope, and its name
in there; an object of the whole cluster has the empty scope.  The text of a
key, `scope/name`, is also the key of the store's tables, so two keys whose
texts agree name one object.  Main statements: a key without slashes in its
parts is read back from its text, and what is read as a key is the key's text.
-/

namespace TenantFleet

/-- The name of an object and the namespace that it lives in. -/
structure ObjectKey where
  scope : String
  name : String
deriving DecidableEq, Repr, Inhabited

namespace ObjectKey

/-- The key as it stands in messages, labels and tables. -/
def text (key : ObjectKey) : String :=
  key.scope ++ "/" ++ key.name

/-- Whether neither part of the key is set. -/
def isEmpty (key : ObjectKey) : Bool :=
  key.name = "" && key.scope = ""

/-- Whether `first` stands before `second` in the order of scopes and, within one, of names. -/
def before (first second : ObjectKey) : Bool :=
  first.scope < second.scope || (first.scope = second.scope && first.name < second.name)

/-- Whether `first` is `second` or stands before it. -/
def notAfter (first second : ObjectKey) : Bool :=
  !second.before first

/-- The key that a text spells: what stands before its only slash is the scope, and the name
behind it may not be empty. -/
def ofText? (text : String) : Option ObjectKey :=
  let characters := text.toList
  match characters.dropWhile (· != '/') with
  | [] => none
  | _ :: name =>
      if name.isEmpty || name.contains '/' then
        none
      else
        some ⟨String.ofList (characters.takeWhile (· != '/')), String.ofList name⟩

theorem toList_text (key : ObjectKey) :
    key.text.toList = key.scope.toList ++ '/' :: key.name.toList := by
  simp [text, String.toList_append]

/-- A key whose scope and name hold no slash, and whose name is not empty, is read back. -/
theorem ofText?_text {key : ObjectKey} (plainScope : '/' ∉ key.scope.toList)
    (plainName : '/' ∉ key.name.toList) (named : key.name ≠ "") :
    ofText? key.text = some key := by
  have scopeOnly : ∀ character ∈ key.scope.toList, (character != '/') = true := by
    intro character characterMem
    exact bne_iff_ne.2 fun equal => plainScope (equal ▸ characterMem)
  have before : key.text.toList.takeWhile (· != '/') = key.scope.toList := by
    rw [toList_text, List.takeWhile_append_of_pos scopeOnly]
    simp
  have behind : key.text.toList.dropWhile (· != '/') = '/' :: key.name.toList := by
    rw [toList_text, List.dropWhile_append_of_pos scopeOnly]
    simp
  have someName : key.name.toList.isEmpty = false := by
    simpa using named
  simp [ofText?, before, behind, someName, plainName]

theorem text_of_ofText? {text : String} {key : ObjectKey} (read : ofText? text = some key) :
    key.text = text := by
  have parts := List.takeWhile_append_dropWhile (p := (· != '/')) (l := text.toList)
  unfold ofText? at read
  simp only at read
  split at read
  next => simp at read
  next slash name behind =>
    have isSlash : slash = '/' := by
      have := List.head?_dropWhile_not (p := (· != '/')) text.toList
      simpa [behind] using this
    split at read
    next => simp at read
    next =>
      obtain rfl := Option.some.inj read
      apply String.toList_inj.1
      rw [toList_text]
      simp only [String.toList_ofList]
      rw [isSlash] at behind
      rw [← behind, parts]

/-- What is said of a text that spells no key. -/
def malformedMessage (text : String) : String :=
  "expected <namespace>/<name>, got " ++ Text.quoted text

end ObjectKey

end TenantFleet
