import PolicyHost.Evaluation.Builder
import PolicyHost.Guest.Behaviour
import PolicyHost.Guest.Image

namespace PolicyHost
namespace Engine

/-!
# The engine for policy modules

This engine takes module images and gives them the behaviour of the policy
they carry.
-/

/-- What is said about bytes that do not begin an artifact. -/
def complaintAbout (bytes : Bytes) : String :=
  "failed to parse precompiled artifact as an ELF\n\nCaused by:\n    " ++
    (if bytes.length < 64 then "Invalid ELF header size or alignment"
      else "Unsupported ELF header") ++ "\n"

def policies : Engine PolicyState where
  compile := fun source =>
    match source with
    | .binary bytes => (Image.ofBinary? bytes).map Policy.toModule
    | .text source => (Image.ofText? source).map Policy.toModule
  deserialize := fun bytes => (Image.ofCompiled? bytes).map Policy.toModule
  complaint := complaintAbout

end Engine
end PolicyHost
