import Imagewright.Manifest.TreeStages

/-!
# Stages of exports

The stages that turn a tree or an image file of a pipeline into the file that is exported.

## Main definitions

* `Manifest.qemuStage`, `Manifest.xzStage`: from an image file.
* `Manifest.tarStage`, `Manifest.ociArchiveStage`: from a tree.
-/
namespace Imagewright.Manifest

def formatOptions (format : String) : List (String × Value) :=
  ("type", .str format) ::
    if format == "qcow2" then [("compat", "1.1")]
    else if format == "vpc" then [("force_size", .bool true)]
    else if format == "vmdk" then [("subformat", "streamOptimized")]
    else []

def qemuStage (pipeline source filename format : String) : Stage :=
  { stage "qemu" [("filename", .str filename), ("format", .obj (formatOptions format))] with
    inputs := [("image", .file pipeline source)] }

def xzStage (pipeline source filename : String) : Stage :=
  { stage "xz" [("filename", .str filename)] with inputs := [("file", .file pipeline source)] }

def tarStage (pipeline filename : String) : Stage :=
  { stage "tar" [("filename", .str filename)] with inputs := [("tree", .tree pipeline)] }

def ociArchiveStage (pipeline filename arch : String) (command : List String) : Stage :=
  { stage "oci-archive" [
      ("architecture", .str arch),
      ("filename", .str filename),
      ("config", .obj [("Cmd", Value.texts command)])] with
    inputs := [("base", .tree pipeline)] }

end Imagewright.Manifest
