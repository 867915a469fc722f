import RegisterTrace.Proofs.Payload
import RegisterTrace.Proofs.Pieces

/-!
# Reversing the groups of a payload

Any text is made of the groups between its colons, of which some may be empty, and the groups with
colons between them give the text back.  So a text whose groups are reversed twice is the text
itself.  Where all groups are pairs of characters, even the digits without the colons are enough to
get the payload back, for they can be cut into the pairs again.
-/

namespace RegisterTrace.Payload

variable {groups : List (List Char)}

/-! ## Groups of a text -/

/-- Groups as strings with colons between them. -/
theorem ofGroups_eq_intercalate
    (groups : List (List Char)) :
    ofGroups groups = String.intercalate ":" (groups.map String.ofList) := by
  rw [ofGroups, ← String.toList_inj, String.toList_ofList, String.toList_intercalate, List.map_map]
  have same : String.toList ∘ String.ofList = id := funext fun _ => String.toList_ofList
  rw [same, List.map_id]
  rfl

theorem ofGroups_append
    {first second : List (List Char)}
    (nonemptyFirst : first ≠ [])
    (nonemptySecond : second ≠ []) :
    ofGroups (first ++ second) = ofGroups first ++ ":" ++ ofGroups second := by
  rw [ofGroups_eq_intercalate, ofGroups_eq_intercalate, ofGroups_eq_intercalate, List.map_append]
  apply String.intercalate_append_of_ne_nil
  · exact mt List.map_eq_nil_iff.mp nonemptyFirst
  · exact mt List.map_eq_nil_iff.mp nonemptySecond

theorem reversedGroups_ne_nil
    (text : List Char) :
    reversedGroups text ≠ [] :=
  List.reverse_ne_nil_iff.mpr (List.splitOn_ne_nil ':' text)

/-! ## Reversal -/

/-- Groups without colons are reversed as they stand. -/
theorem reverse_ofGroups
    (nonempty : groups ≠ [])
    (noColon : ∀ group ∈ groups, ':' ∉ group) :
    reverse (ofGroups groups) = ofGroups groups.reverse := by
  rw [reverse, ofGroups, String.toList_ofList, reversedGroups,
    List.splitOn_intercalate ':' noColon nonempty]
  rfl

/-- Any payload is its groups with colons between them. -/
theorem ofGroups_splitOn
    (payload : String) :
    ofGroups (payload.toList.splitOn ':') = payload := by
  rw [ofGroups, List.intercalate_splitOn, String.ofList_toList]

theorem reverse_reverse
    (payload : String) :
    reverse (reverse payload) = payload := by
  have noColon : ∀ group ∈ reversedGroups payload.toList, ':' ∉ group := by
    intro group member
    exact notMem_of_mem_splitOn payload.toList group (List.mem_reverse.mp member)
  have once : reverse payload = ofGroups (reversedGroups payload.toList) := rfl
  rw [once, reverse_ofGroups (reversedGroups_ne_nil _) noColon, reversedGroups,
    List.reverse_reverse, ofGroups_splitOn]

/-- The groups behind a colon come first once they are reversed. -/
theorem reverse_append
    (first second : String) :
    reverse (first ++ ":" ++ second) = reverse second ++ ":" ++ reverse first := by
  have colon : (":" : String).toList = [':'] := rfl
  have split :
      reversedGroups (first ++ ":" ++ second).toList =
        reversedGroups second.toList ++ reversedGroups first.toList := by
    rw [String.toList_append, String.toList_append, colon, List.append_assoc,
      List.singleton_append, reversedGroups, List.splitOn_append_cons_self, List.reverse_append]
    rfl
  have whole (payload : String) : reverse payload = ofGroups (reversedGroups payload.toList) := rfl
  rw [whole, split, ofGroups_append (reversedGroups_ne_nil _) (reversedGroups_ne_nil _)]
  rfl

/-! ## Pairs of characters -/

/-- The characters of a text two by two; one that is left over stands alone. -/
def pairs : List Char → List (List Char)
  | [] => []
  | [single] => [[single]]
  | first :: second :: rest => [first, second] :: pairs rest

/-- Pairs that stand side by side are told from each other. -/
theorem pairs_flatten
    (two : ∀ group ∈ groups, group.length = 2) :
    pairs groups.flatten = groups := by
  induction groups with
  | nil => rfl
  | cons group others inductionHypothesis =>
      rcases List.forall_mem_cons.mp two with ⟨twoHere, twoLater⟩
      rcases List.length_eq_two.mp twoHere with ⟨first, second, rfl⟩
      rw [List.flatten_cons, List.cons_append, List.cons_append, List.nil_append, pairs,
        inductionHypothesis twoLater]

/--
Reversing the groups of a text loses nothing: done twice it gives the text back, whatever the groups
are, and it takes a text in two parts to the reversed parts in the opposite order.  A payload of
pairs is found again from its digits, which are cut into pairs and reversed.
-/
theorem reversal_loses_nothing :
    (∀ payload, reverse (reverse payload) = payload) ∧
      (∀ first second,
        reverse (first ++ ":" ++ second) = reverse second ++ ":" ++ reverse first) ∧
        ∀ groups : List (List Char),
          groups ≠ [] →
            (∀ group ∈ groups, group.length = 2 ∧ ':' ∉ group) →
              reverse (ofGroups (pairs (digits (ofGroups groups)).toList)) = ofGroups groups := by
  refine ⟨reverse_reverse, reverse_append, ?_⟩
  intro groups nonempty paired
  have noColon : ∀ group ∈ groups, ':' ∉ group := fun group member => (paired group member).2
  have two : ∀ group ∈ groups.reverse, group.length = 2 := by
    intro group member
    exact (paired group (List.mem_reverse.mp member)).1
  rw [digits_ofGroups nonempty noColon, String.toList_ofList, pairs_flatten two,
    ← reverse_ofGroups nonempty noColon, reverse_reverse]

/-- Pairs that are no bytes, and a text with empty and odd groups at its ends. -/
theorem reversal_of_odd_texts :
    reverse (ofGroups (pairs (digits "de:é7:0x").toList)) = "de:é7:0x" ∧
      reverse (reverse ":a:b7c::") = ":a:b7c::" ∧
        reverse ("a:" ++ ":" ++ "12") = "12" ++ ":" ++ ":a" := by
  have paired : ∀ group ∈ [['d', 'e'], ['é', '7'], ['0', 'x']], group.length = 2 ∧ ':' ∉ group := by
    decide
  rcases reversal_loses_nothing with ⟨twice, inParts, fromDigits⟩
  exact
    ⟨fromDigits [['d', 'e'], ['é', '7'], ['0', 'x']] (by decide) paired, twice ":a:b7c::",
      inParts "a:" "12"⟩

end RegisterTrace.Payload
