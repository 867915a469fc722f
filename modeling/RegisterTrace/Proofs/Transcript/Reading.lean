import Mathlib.Data.List.Forall2
import RegisterTrace.Proofs.Session.Written
import RegisterTrace.Proofs.Source
import RegisterTrace.Proofs.Transcript.Words

/-!
# Reading a transcript back

The text of transactions is read line by line.  Times may look like anything, so a heading is read
from its end, where the direction, the address and the payload stand; because of these no heading is
ever taken for a field line, whatever its time looks like.  The line behind a heading is the
register's name, and the field lines that follow are the register's fields.

A line shows of a field's changed bits only whether there are any, so this is what is read back.
-/

namespace RegisterTrace

/-! ## What a text shows -/

/-- The field as its line shows it: a change is a change, whatever the bits. -/
def FieldValue.shown (field : FieldValue) : FieldValue :=
  { field with changed := if field.isChanged then 1 else 0 }

/-- The transaction as its text shows it. -/
def Transaction.shown (transaction : Transaction) : Transaction :=
  { transaction with fields := transaction.fields.map FieldValue.shown }

/-- Two fields with the same name and value, of which both changed or neither did. -/
structure FieldValue.Alike (left right : FieldValue) : Prop where
  name : left.name = right.name
  value : left.value = right.value
  isChanged : left.isChanged = right.isChanged

/-- Two transactions that agree in everything but the bits that changed. -/
structure Transaction.Alike (left right : Transaction) : Prop where
  time : left.time = right.time
  direction : left.direction = right.direction
  address : left.address = right.address
  payload : left.payload = right.payload
  register : left.register = right.register
  fields : List.Forall₂ FieldValue.Alike left.fields right.fields

theorem FieldValue.isChanged_shown
    (field : FieldValue) :
    field.shown.isChanged = field.isChanged := by
  cases changed : field.isChanged with
  | false =>
      rw [shown, changed]
      rfl
  | true =>
      rw [shown, changed]
      rfl

theorem FieldValue.alike_of_shown_eq
    {left right : FieldValue}
    (same : left.shown = right.shown) :
    left.Alike right := by
  have isChanged : left.isChanged = right.isChanged := by
    rw [← left.isChanged_shown, same, right.isChanged_shown]
  rw [shown, shown, FieldValue.mk.injEq] at same
  exact ⟨same.1, same.2.1, isChanged⟩

/-- Lists with the same images are related item by item, if items with the same image are. -/
theorem forall₂_of_map_eq
    {Item Image : Type}
    {image : Item → Image}
    {related : Item → Item → Prop}
    (told : ∀ item other, image item = image other → related item other)
    {items others : List Item}
    (same : items.map image = others.map image) :
    List.Forall₂ related items others := by
  have itemwise : List.Forall₂ Eq (items.map image) (others.map image) := by
    rw [List.forall₂_eq_eq_eq]
    exact same
  rw [List.forall₂_map_left_iff, List.forall₂_map_right_iff] at itemwise
  exact itemwise.imp told

theorem Transaction.alike_of_shown_eq
    {left right : Transaction}
    (same : left.shown = right.shown) :
    left.Alike right := by
  rw [shown, shown, Transaction.mk.injEq] at same
  rcases same with ⟨time, direction, address, payload, register, fields⟩
  have alike := forall₂_of_map_eq (fun _ _ => FieldValue.alike_of_shown_eq) fields
  exact ⟨time, direction, address, payload, register, alike⟩

namespace Transcript

/-- A transaction whose text can be read back: names and payload are words, the time is one line. -/
structure Readable (transaction : Transaction) : Prop where
  time : '\n' ∉ transaction.time.toList
  payload : IsWord transaction.payload.toList
  register : IsWord transaction.register.toList
  fields : ∀ field ∈ transaction.fields, IsWord field.name.toList

/-! ## Reading lines -/

/-- The lines of a text that ends with a line feed. -/
def lines (text : String) : List (List Char) :=
  (text.toList.splitOn '\n').dropLast

/-- What the words behind the columns of a field line say about a change. -/
def changed? : List (List Char) → Option Bool
  | [] => some false
  | [mark] => if mark = changeMark then some true else none
  | _ => none

/-- The field of a line, if it is a field line. -/
def field? (line : List Char) : Option FieldValue :=
  match words line with
  | name :: sign :: decimal :: hexadecimal :: behind => do
      let changed ← changed? behind
      let value ← Numeral.readWord? 10 decimal
      if sign = ['='] ∧ Numeral.readWord? 16 (dropHexMark hexadecimal) = some value then
        some ⟨String.ofList name, value, if changed then 1 else 0⟩
      else
        none
  | _ => none

/-- The direction with a tag. -/
def direction? (tag : List Char) : Option Direction :=
  [Direction.read, Direction.write].find? (·.tag.toList = tag)

/-- The transaction of a heading, of which the other lines are not known yet. -/
def heading? (line : List Char) : Option Transaction :=
  match (line.splitOn ' ').reverse with
  | payload :: address :: tag :: time => do
      let direction ← direction? tag
      let address ← Numeral.readWord? 16 (dropHexMark address)
      some
        { time := String.ofList ([' '].intercalate time.reverse)
          direction
          address
          payload := String.ofList payload
          register := ""
          fields := [] }
  | _ => none

/-- The fields that lines start with, and the transactions behind them. -/
def gather? : List (List Char) → Option (List FieldValue × List Transaction)
  | [] => some ([], [])
  | line :: rest =>
      match field? line with
      | some field => do
          let (fields, later) ← gather? rest
          some (field :: fields, later)
      | none =>
          match rest with
          | [] => none
          | register :: behind => do
              let heading ← heading? line
              let (fields, later) ← gather? behind
              some
                ([], { heading with register := String.ofList (register.drop 2), fields } :: later)

/-- The transactions that a text shows. -/
def read? (text : String) : Option (List Transaction) :=
  match gather? (lines text) with
  | some ([], transactions) => some transactions
  | _ => none

/-! ## The lines of transactions -/

theorem not_mem_fillRight
    {text : String}
    (isWord : IsWord text.toList)
    (width : Nat) :
    '\n' ∉ (fillRight width text).toList := by
  rw [toList_fillRight, List.mem_append, not_or]
  refine ⟨isWord.noLineFeed, ?_⟩
  intro member
  cases List.eq_of_mem_replicate member

theorem not_mem_fieldLine
    {field : FieldValue}
    (isWord : IsWord field.name.toList) :
    '\n' ∉ field.line.toList := by
  have noMarkFeed : '\n' ∉ field.marker.toList := by
    rw [FieldValue.marker]
    split <;> decide
  simp [FieldValue.line, not_mem_fillRight isWord, not_mem_fillRight (isWord_decimal _),
    not_mem_fillRight (isWord_markedHex _), noMarkFeed]

theorem not_mem_heading
    {transaction : Transaction}
    (readable : Readable transaction) :
    '\n' ∉ transaction.heading.toList := by
  simp [Transaction.heading, readable.time, (isWord_tag transaction.direction).noLineFeed,
    (isWord_address transaction.address).noLineFeed, readable.payload.noLineFeed]

/-- No line of a transaction is broken. -/
theorem not_mem_of_mem_lines
    {transaction : Transaction}
    (readable : Readable transaction)
    {line : String}
    (member : line ∈ transaction.lines) :
    '\n' ∉ line.toList := by
  rw [Transaction.lines, List.mem_cons, List.mem_cons, List.mem_map] at member
  rcases member with rfl | rfl | ⟨field, isField, rfl⟩
  · exact not_mem_heading readable
  · simp [readable.register.noLineFeed]
  · exact not_mem_fieldLine (readable.fields field isField)

theorem lines_texts
    {transactions : List Transaction}
    (readable : ∀ transaction ∈ transactions, Readable transaction) :
    lines (Transaction.texts transactions) =
      transactions.flatMap fun transaction => transaction.lines.map String.toList := by
  have shape :
      (Transaction.texts transactions).toList =
        (transactions.flatMap fun transaction => transaction.lines.map String.toList).flatMap
          (· ++ ['\n']) := by
    simp [Transaction.texts, Transaction.text, String.toList_join, List.flatMap_map,
      List.flatMap_assoc]
  have noFeed :
      ∀ line ∈ transactions.flatMap fun transaction => transaction.lines.map String.toList,
        '\n' ∉ line := by
    intro line member
    rcases List.mem_flatMap.mp member with ⟨transaction, isTransaction, isLine⟩
    rcases List.mem_map.mp isLine with ⟨written, isWritten, rfl⟩
    exact not_mem_of_mem_lines (readable transaction isTransaction) isWritten
  have split := splitOn_flatMap_append noFeed List.not_mem_nil
  rw [List.append_nil] at split
  rw [lines, shape, split, List.dropLast_concat]

/-! ## Reading them back -/

theorem field?_fieldLine
    {field : FieldValue}
    (isWord : IsWord field.name.toList) :
    field? field.line.toList = some field.shown := by
  have marked :
      changed? (if field.isChanged then [changeMark] else []) = some field.isChanged := by
    cases field.isChanged <;> rfl
  rw [field?, words_fieldLine isWord]
  simp [marked, readWord?_decimal, readWord?_markedHex, FieldValue.shown]

theorem changed?_of_two_le
    {behind : List (List Char)}
    (several : 2 ≤ behind.length) :
    changed? behind = none := by
  rcases behind with _ | ⟨first, _ | ⟨second, more⟩⟩
  · cases several
  · rw [List.length_singleton] at several
    omega
  · rfl

/-- No heading is a field line: a field line has no tag in any of the places where one stands. -/
theorem field?_heading
    {transaction : Transaction}
    (isWord : IsWord transaction.payload.toList) :
    field? transaction.heading.toList = none := by
  have noSign : transaction.direction.tag.toList ≠ ['='] := by
    cases transaction.direction <;> decide
  have noNumber : Numeral.readWord? 10 transaction.direction.tag.toList = none := by
    cases transaction.direction <;> decide
  rw [field?, words_heading isWord]
  -- The words of the time push the tag from place to place: to the sign, to a column, behind them.
  rcases words transaction.time.toList with
    _ | ⟨first, _ | ⟨second, _ | ⟨third, _ | ⟨fourth, more⟩⟩⟩⟩
  · rfl
  · simp [noSign]
  · simp [noNumber]
  · rfl
  · have several : 2 ≤ (more ++ [transaction.direction.tag.toList,
        (Numeral.address transaction.address).toList, transaction.payload.toList]).length := by
      simp
    simp [changed?_of_two_le several]

theorem direction?_tag
    (direction : Direction) :
    direction? direction.tag.toList = some direction := by
  cases direction <;> decide

theorem heading?_heading
    {transaction : Transaction}
    (isWord : IsWord transaction.payload.toList) :
    heading? transaction.heading.toList =
      some { transaction with register := "", fields := [] } := by
  have pieces :
      transaction.heading.toList.splitOn ' ' =
        transaction.time.toList.splitOn ' ' ++
          [transaction.direction.tag.toList, (Numeral.address transaction.address).toList,
            transaction.payload.toList] := by
    rw [toList_heading, List.splitOn_append_cons_self,
      List.splitOn_append_cons_self_of_not_mem (isWord_tag transaction.direction).noSpace,
      List.splitOn_append_cons_self_of_not_mem (isWord_address transaction.address).noSpace,
      List.splitOn_eq_singleton isWord.noSpace]
  rw [heading?, pieces]
  simp [direction?_tag, readWord?_address, List.intercalate_splitOn]

theorem gather?_cons_of_field
    {line : List Char}
    {rest : List (List Char)}
    {field : FieldValue}
    {found : List FieldValue}
    {later : List Transaction}
    (isField : field? line = some field)
    (gathered : gather? rest = some (found, later)) :
    gather? (line :: rest) = some (field :: found, later) := by
  rw [gather?.eq_def]
  simp only [isField, gathered]
  rfl

theorem gather?_cons_of_heading
    {line register : List Char}
    {rest : List (List Char)}
    {heading : Transaction}
    {fields : List FieldValue}
    {later : List Transaction}
    (noField : field? line = none)
    (isHeading : heading? line = some heading)
    (gathered : gather? rest = some (fields, later)) :
    gather? (line :: register :: rest) =
      some
        ([], { heading with register := String.ofList (register.drop 2), fields } :: later) := by
  rw [gather?.eq_def]
  simp only [noField, isHeading, gathered]
  rfl

/-- Field lines give their fields, in front of those that follow. -/
theorem gather?_fieldLines
    {fields : List FieldValue}
    (areWords : ∀ field ∈ fields, IsWord field.name.toList)
    {rest : List (List Char)}
    {found : List FieldValue}
    {later : List Transaction}
    (gathered : gather? rest = some (found, later)) :
    gather? (fields.map (·.line.toList) ++ rest) =
      some (fields.map FieldValue.shown ++ found, later) := by
  induction fields with
  | nil => exact gathered
  | cons field fields inductionHypothesis =>
      rcases List.forall_mem_cons.mp areWords with ⟨isWord, areLater⟩
      exact gather?_cons_of_field (field?_fieldLine isWord) (inductionHypothesis areLater)

/-- The lines of a transaction give it, with the fields that its lines end with. -/
theorem gather?_lines
    {transaction : Transaction}
    (readable : Readable transaction)
    {rest : List (List Char)}
    {later : List Transaction}
    (gathered : gather? rest = some ([], later)) :
    gather? (transaction.lines.map String.toList ++ rest) =
      some ([], transaction.shown :: later) := by
  have fields := gather?_fieldLines readable.fields gathered
  rw [List.append_nil] at fields
  have register : ("  " ++ transaction.register).toList.drop 2 = transaction.register.toList := by
    simp
  rw [Transaction.lines, List.map_cons, List.map_cons, List.map_map, List.cons_append,
    List.cons_append]
  have gatheredHere :=
    @gather?_cons_of_heading _ ("  " ++ transaction.register).toList _ _ _ _
      (field?_heading readable.payload) (heading?_heading readable.payload) fields
  rw [register, String.ofList_toList] at gatheredHere
  exact gatheredHere

theorem gather?_flatMap_lines
    {transactions : List Transaction}
    (readable : ∀ transaction ∈ transactions, Readable transaction) :
    gather? (transactions.flatMap fun transaction => transaction.lines.map String.toList) =
      some ([], transactions.map Transaction.shown) := by
  induction transactions with
  | nil => rfl
  | cons transaction rest inductionHypothesis =>
      rcases List.forall_mem_cons.mp readable with ⟨isReadable, areReadable⟩
      exact gather?_lines isReadable (inductionHypothesis areReadable)

/-- The text of transactions is read back as what it shows of them. -/
theorem read?_texts
    {transactions : List Transaction}
    (readable : ∀ transaction ∈ transactions, Readable transaction) :
    read? (Transaction.texts transactions) = some (transactions.map Transaction.shown) := by
  rw [read?, lines_texts readable, gather?_flatMap_lines readable]

/--
Transactions with the same text are the same one by one, except for which bits of a field changed,
and on every field line both columns show the value of the field.
-/
theorem texts_readable :
    (∀ left right : List Transaction,
      (∀ transaction ∈ left, Readable transaction) →
        (∀ transaction ∈ right, Readable transaction) →
          Transaction.texts left = Transaction.texts right →
            List.Forall₂ Transaction.Alike left right) ∧
      ∀ transaction : Transaction, Readable transaction → ∀ field ∈ transaction.fields,
        ∃ decimal hexadecimal behind,
          words field.line.toList =
              field.name.toList :: ['='] :: decimal :: hexadecimal :: behind ∧
            Numeral.readWord? 10 decimal = some field.value ∧
              Numeral.readWord? 16 (dropHexMark hexadecimal) = some field.value := by
  constructor
  · intro left right leftReadable rightReadable same
    have leftRead := read?_texts leftReadable
    rw [same, read?_texts rightReadable, Option.some.injEq] at leftRead
    exact forall₂_of_map_eq (fun _ _ => Transaction.alike_of_shown_eq) leftRead.symm
  · intro transaction readable field isField
    exact
      ⟨_, _, _, words_fieldLine (readable.fields field isField), readWord?_decimal field.value,
        readWord?_markedHex field.value⟩

/-! ## A time that looks like a field line -/

/-- A transaction whose time looks like a field line, with the bits that changed in a field. -/
def imitating (changed : Word) : Transaction where
  time := "    en                        = 1      0x1"
  direction := .write
  address := 0x48
  payload := "00000011"
  register := "FL2000_REG_X"
  fields := [⟨"en", 1, 0⟩, ⟨"mode", 17, changed⟩]

theorem readable_imitating
    (changed : Word) :
    Readable (imitating changed) where
  time := by
    dsimp only [imitating]
    decide
  payload := by
    dsimp only [imitating]
    decide
  register := by
    dsimp only [imitating]
    decide
  fields := by
    simp only [imitating, List.forall_mem_cons]
    exact ⟨by decide, by decide, nofun⟩

/-- Which bits changed does not show, and nothing else differs. -/
theorem alike_imitating :
    Transaction.texts [imitating 0x10, imitating 0] =
        Transaction.texts [imitating 0x01, imitating 0] ∧
      List.Forall₂ Transaction.Alike [imitating 0x10, imitating 0]
        [imitating 0x01, imitating 0] ∧
        ∃ decimal hexadecimal behind,
          words (FieldValue.line ⟨"mode", 17, 0x10⟩).toList =
              "mode".toList :: ['='] :: decimal :: hexadecimal :: behind ∧
            Numeral.readWord? 10 decimal = some 17 ∧
              Numeral.readWord? 16 (dropHexMark hexadecimal) = some 17 := by
  have same :
      Transaction.texts [imitating 0x10, imitating 0] =
        Transaction.texts [imitating 0x01, imitating 0] := by
    decide +kernel
  have readable :
      ∀ changed, ∀ transaction ∈ [imitating changed, imitating 0], Readable transaction := by
    intro changed
    simp only [List.forall_mem_cons]
    exact ⟨readable_imitating changed, readable_imitating 0, nofun⟩
  have isField : (⟨"mode", 17, 0x10⟩ : FieldValue) ∈ (imitating 0x10).fields :=
    List.mem_cons_of_mem _ List.mem_cons_self
  exact
    ⟨same, texts_readable.1 _ _ (readable 0x10) (readable 0x01) same,
      texts_readable.2 (imitating 0x10) (readable_imitating 0x10) _ isField⟩

end Transcript

end RegisterTrace
