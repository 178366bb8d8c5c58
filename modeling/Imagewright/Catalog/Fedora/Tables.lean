import Imagewright.Disk.Partition

/-!
# Partition tables of Fedora images

## Main definitions

* `Fedora.defaultTable?`: the partition table of the disk images of an architecture.
-/
namespace Imagewright.Catalog.Fedora

open Disk

def efiSystem : Partition where
  size := 200 * mib
  type := efiSystemType
  filesystem := some {
    type := .vfat
    mountpoint := "/boot/efi"
    label := "EFI-SYSTEM"
    fstabOptions := "defaults,uid=0,gid=0,umask=077,shortname=winnt"
    fstabPassno := .int 2 }
  size_pos := by decide

def boot (label : Label) (bootable : Bool := false) : Partition where
  size := 500 * mib
  type := label.dataType
  bootable := .bool bootable
  filesystem := some {
    type := .ext4
    mountpoint := "/boot"
    label := "boot"
    fstabPassno := .int 1 }
  size_pos := by decide

def root (label : Label) : Partition where
  size := 2 * gib
  type := label.dataType
  filesystem := some {
    type := .ext4
    mountpoint := "/"
    label := "root"
    fstabPassno := .int 1 }
  size_pos := by decide

def biosBoot : Partition where
  size := mib
  type := biosBootType
  bootable := .bool true
  size_pos := by decide

def prepBoot : Partition where
  size := 4 * mib
  type := dosPrepType
  bootable := .bool true
  size_pos := by decide

def defaultTable? (arch : String) : Option PartitionTable :=
  if arch == "x86_64" then some ⟨.gpt, [biosBoot, efiSystem, boot .gpt, root .gpt], "", 0⟩
  else if arch == "aarch64" then some ⟨.gpt, [efiSystem, boot .gpt, root .gpt], "", 0⟩
  else if arch == "ppc64le" then some ⟨.dos, [prepBoot, boot .dos, root .dos], "", 0⟩
  else if arch == "s390x" then some ⟨.dos, [boot .dos true, root .dos], "", 0⟩
  else none

end Imagewright.Catalog.Fedora
