import ConstrainedDecoding.Scripted.Parse

/-!
Sessions in which scripts are run, with the room that scripts have. No theorem about all stacks has
this one in sight.
-/

namespace ConstrainedDecoding

instance : Stack :=
  Scripted.Room.usual

end ConstrainedDecoding
