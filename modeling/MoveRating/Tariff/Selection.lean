import MoveRating.Tariff.Row
import MoveRating.RatingError

/-!
# The row in effect

Several rows may stand under one key, each for its own range of dates. `selectEffective` finds the
one that applies on a date, and refuses if there is none or more than one.
-/

namespace MoveRating

variable {ρ : Type} [EffectiveDated ρ]

/-- The row applies on the date. -/
def appliesOn (date : Date) (row : ρ) : Bool := (EffectiveDated.effective row).contains date

/-- The only row that applies on the date. -/
def selectEffective (rows : List ρ) (table : TariffTable) (key : String) (date : Date) :
    Except RatingError ρ :=
  match rows.filter (appliesOn date) with
  | [row] => .ok row
  | [] => .error (if rows.isEmpty then .noRow table key else .noRateForDate table key date)
  | _ => .error (.ambiguousRate table key date)

end MoveRating
