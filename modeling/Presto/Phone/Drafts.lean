import Presto.Phone.Entry

/-!
# Forms on the phone (`core/Entry.kt`, `Repository.kt`)

| source                                    | model                |
|-------------------------------------------|----------------------|
| `mostUsedAccount` (`Entry.kt:14`)         | `mostUsedAccount`    |
| `suggestDraftLinks` (`Entry.kt:45`)       | `suggestDraftLinks`  |
| `editDraft` (`Entry.kt:516`)              | `editDraft`          |
| `reviewBlocked` (`Repository.kt:882`)     | `reviewBlocked`      |
| `commitEntry` (`Repository.kt:474`), what is written | `prepare` |

A form is filled in from an entry, to edit it or to save it again, and read by `writeEntry`. Which
category a description suggests (`suggestCategory`) is a parameter.
-/

namespace Entry

/-- The texts that the phone fills in: `toPlainString` of an amount, and the texts of dates and of
months as an entry carries them. -/
structure Texts where
  plain : Decimal → String
  date : Date → String
  month : Month → String

/-! ## Automatic links -/

end Entry
