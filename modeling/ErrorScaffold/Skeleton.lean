/-
A C++ program that parses a template at compile time and dumps the tree.
-/

namespace ErrorScaffold.Skeleton

/-- The program for the template at `source`, which stands verbatim in an include directive. -/
def text (source : String) : String :=
  "\n#include <iostream>\n#include \"seephit.h\"\nusing namespace std;\n\nint main()\n\x7b\n"
    ++ "  constexpr auto nodes =\n  #include \"" ++ source
    ++ "\"\n\n  dumpNode(nodes, 0, 0);\n\x7d\n\n"

end ErrorScaffold.Skeleton
