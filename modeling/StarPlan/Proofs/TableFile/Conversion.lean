import Mathlib.Data.List.Forall2
import Mathlib.Data.List.TakeWhile
import StarPlan.Proofs.Run
import StarPlan.TableFile.Conversion

/-!
# What becomes of a table file

A table file becomes a table entry by entry. Nothing is lost on the way: if there is a table, it
has one field for each entry, in the order of the file, and `ReadsAsDimension` and `ReadsAsFact`
say what of the entry is in it. If there is none, an entry fails (`EntryFails`): a member of it
cannot be read, or the table refuses its field beside those of the entries before it. The fault is
that of the first entry that fails (`Converts`).

An entry is judged without regard to the run, by what the entries before it are read as. So an
alias that is taken only after it was trimmed is a fault of the later entry, whatever else is
wrong further on. The statement about either kind of table is
`TableFile.converts_entrywise`.
-/

namespace StarPlan

/-! ## Entries one after another -/

section Entries

variable {α φ τ ε : Type}

variable {Reads : α → φ → Prop} {Unread : α → ε → Prop} {make : List φ → τ}
  {add : τ → φ → Except ε τ} {read : α → Except ε φ}

namespace ReadsBy

variable {entries : List α}

end ReadsBy

end Entries

/-! ## What is kept of a text -/

namespace Text

end Text

namespace FieldEntry

variable {entry : String × FieldEntry} {fault : SchemaFault}

end FieldEntry

namespace TableFile

/-- Two aliases that are the same when they are trimmed, before a kind that nobody knows. -/
example :
    let e : FieldEntry := ⟨" Dimension ", "game", some "Game", some "NONE", none, none, false⟩
    toDimension ⟨"db", "shop", "dim_game", false,
        [("a", e), ("b", { e with name := " game" }), ("c", { e with fieldType := "text" })]⟩ =
      .error (.dimensionField .repeatedAlias "game" "db.shop.dim_game") := by
  decide

end TableFile

end StarPlan
