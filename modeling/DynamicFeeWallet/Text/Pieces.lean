/-!
# Pieces of a text

`pieces` cuts a text at every mark and keeps what stands between the marks, empty pieces too: `n` marks make `n + 1`
pieces.
-/

namespace DynamicFeeWallet.Text

/-- What stands between the characters that are marks. -/
def pieces (isMark : Char → Bool) : List Char → List (List Char)
  | [] => [[]]
  | c :: rest =>
    if isMark c then [] :: pieces isMark rest
    else
      match pieces isMark rest with
      | [] => [[c]]
      | piece :: others => (c :: piece) :: others

theorem pieces_ne_nil (isMark : Char → Bool) (text : List Char) : pieces isMark text ≠ [] := by
  cases text with
  | nil => exact List.cons_ne_nil _ _
  | cons c rest =>
    unfold pieces
    split
    · exact List.cons_ne_nil _ _
    · split <;> exact List.cons_ne_nil _ _

theorem length_pieces (isMark : Char → Bool) (text : List Char) :
    (pieces isMark text).length = text.countP isMark + 1 := by
  induction text with
  | nil => rfl
  | cons c rest ih =>
    unfold pieces
    split
    · simp [*]
    · split
      · simp_all
      · simp_all

end DynamicFeeWallet.Text
