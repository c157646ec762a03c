import Mailroom.Console.Layout
import Mailroom.Console.Markup

/-!
# The console

* `Console.width`: the columns of the console;
* `Console.shown`: what is printed for a marked text.
-/

namespace Mailroom.Console

/-- The columns of the console. -/
def width : Nat := 500

/-- What is printed for a marked text. -/
def shown (t : Text) : Except Markup.Fault Text := (Markup.render t).map (Layout.fill width)

end Mailroom.Console
