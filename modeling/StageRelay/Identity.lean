/-!
# What the program calls itself

The name and the version that the program shows on the command line and in its
reports.
-/

namespace StageRelay

def programName : String := "apix"

def version : String := "0.3.0"

end StageRelay
