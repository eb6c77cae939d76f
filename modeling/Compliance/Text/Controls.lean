/-!
Text for an output that is no terminal. Controls that steer a terminal are taken out of it: single control
characters other than blanks, and sequences that an escape character begins. A sequence that is not finished takes
away all that could belong to it.
-/

namespace Compliance.Text

/-- What the characters read so far have begun. -/
inductive Steering where
  | nothing
  | escape
  /-- An escape character and marks that say what the character to come is about. -/
  | marked
  /-- A sequence of parameters, which a letter closes. -/
  | parameters
  /-- A command to the device, of which the letter that opens its text is still to come. -/
  | device
  | deviceParameters
  | deviceMarked
  /-- A text for the device, closed by its terminator. -/
  | deviceText
  /-- A text for the operating system, closed by a bell. -/
  | systemText
  deriving DecidableEq, Repr

def isBetween (first last c : Char) : Bool := first ≤ c && c ≤ last

/-- The blanks that stay in a text among its control characters. -/
def isBlankControl (c : Char) : Bool := c = '\t' || c = '\n' || c = '\x0c' || c = '\r'

/-- Whether a character shows, outside of any sequence. -/
def isVisible (c : Char) : Bool := (' ' ≤ c && c ≠ '\x7f') || isBlankControl c

/-- Whether the byte that terminates a text for the device is among those of a character behind the first one. -/
def holdsTerminator (c : Char) : Bool :=
  let units := c.toNat
  0x80 ≤ units &&
    (units % 64 = 0x1c || (0x800 ≤ units && units / 64 % 64 = 0x1c) ||
      (0x10000 ≤ units && units / 4096 % 64 = 0x1c))

namespace Steering

/-- What has been begun when one more character has been read. -/
def next (steering : Steering) (c : Char) : Steering :=
  if c = '\x1b' then escape
  else if c = '\x18' || c = '\x1a' then nothing
  else match steering with
    | nothing => nothing
    | escape =>
      if c = '[' then parameters
      else if c = ']' then systemText
      else if c = 'P' then device
      else if c = 'X' || c = '^' || c = '_' then deviceText
      else if isBetween ' ' '/' c then marked
      else if isBetween '0' '~' c then nothing
      else escape
    | marked => if isBetween '0' '~' c then nothing else marked
    | parameters => if isBetween '@' '~' c then nothing else parameters
    | device =>
      if isBetween ' ' '/' c then deviceMarked
      else if isBetween '0' '?' c then deviceParameters
      else if isBetween '@' '~' c then deviceText
      else device
    | deviceParameters =>
      if isBetween ' ' '/' c then deviceMarked
      else if isBetween '<' '~' c then deviceText
      else deviceParameters
    | deviceMarked => if isBetween '0' '~' c then deviceText else deviceMarked
    | deviceText => if holdsTerminator c then nothing else deviceText
    | systemText => if c = '\x07' then nothing else systemText

/-- Whether a character shows although it stands behind what has been begun: blanks among the controls break
sequences off. -/
def shows (steering : Steering) (c : Char) : Bool :=
  match steering with
  | nothing => isVisible c
  | escape | marked | parameters => isBlankControl c
  | _ => false

end Steering

/-- The visible characters of a text. While characters show, what was begun before them is remembered and goes on
at the next control character. -/
def visible (showing : Bool) (steering : Steering) : List Char → List Char
  | [] => []
  | c :: rest =>
    if showing && isVisible c then
      c :: visible true (if c.toNat < 0x80 then steering else .nothing) rest
    else if steering.shows c then c :: visible true steering rest
    else visible false (steering.next c) rest

def withoutControls (text : String) : String := String.ofList (visible false .nothing text.toList)

theorem isVisible_of_shows {steering : Steering} {c : Char} (h : steering.shows c = true) :
    isVisible c = true := by
  cases steering <;> simp_all [Steering.shows, isVisible]

/-- No control but a blank is left. -/
theorem isVisible_of_mem_visible {showing : Bool} {steering : Steering} {text : List Char} {c : Char}
    (h : c ∈ visible showing steering text) : isVisible c = true := by
  induction text generalizing showing steering with
  | nil => simp [visible] at h
  | cons head rest ih =>
    rw [visible] at h
    split at h
    · next hs =>
      rcases List.mem_cons.1 h with rfl | h
      · exact (Bool.and_eq_true_iff.1 hs).2
      · exact ih h
    split at h
    · next hs =>
      rcases List.mem_cons.1 h with rfl | h
      · exact isVisible_of_shows hs
      · exact ih h
    · exact ih h

/-- A text without controls stays as it is. -/
theorem visible_eq_self {showing : Bool} {text : List Char} (h : ∀ c ∈ text, isVisible c = true) :
    visible showing .nothing text = text := by
  induction text generalizing showing with
  | nil => rfl
  | cons head rest ih =>
    have hhead := h head List.mem_cons_self
    have hrest : ∀ c ∈ rest, isVisible c = true := fun c hc => h c (List.mem_cons_of_mem _ hc)
    rw [visible]
    cases showing with
    | true => simp [hhead, ih hrest]
    | false => simp [Steering.shows, hhead, ih hrest]

end Compliance.Text
