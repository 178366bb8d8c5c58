import Imagewright.Catalog.Fedora.Packages

/-!
# Image types of Fedora

## Main definitions

* `Fedora.imageTypes`: all image types, in the order in which they are added.
-/
namespace Imagewright.Catalog.Fedora

def allArches : List String := ["x86_64", "aarch64", "ppc64le", "s390x"]

def efiArches : List String := ["x86_64", "aarch64"]

/-- The default ref of the edition for devices. -/
def iotRef : String := "fedora/\x7breleasever\x7d/\x7barch\x7d/iot"

def cloudKernelOptions : String :=
  "ro no_timer_check console=ttyS0,115200n8 biosdevname=0 net.ifnames=0"

def iotKernelOptions : String := "modprobe.blacklist=vc4"

def cloudServices : List String := [
  "cloud-init.service", "cloud-config.service", "cloud-final.service", "cloud-init-local.service"]

def iotServices : List String := ["NetworkManager.service", "firewalld.service", "sshd.service"]

/-- The bytes of a number of gibibytes. -/
def gibibytes (n : Int) : Int := n * Disk.gib

/-- The image types before they are checked. -/
def drafts : List ImageType.Draft := [
  { name := "ami"
    filename := "image.raw"
    mimeType := "application/octet-stream"
    family := .disk
    exportFormat := "raw"
    arches := efiArches
    bootMode := .hybrid
    defaultSize := gibibytes 6
    kernelOptions := cloudKernelOptions
    enabledServices := cloudServices
    packageSets := [("os", ami)] },
  { name := "container"
    filename := "container.tar"
    mimeType := "application/x-tar"
    family := .container
    exportFormat := "container"
    arches := allArches
    packageSets := [("os", container)] },
  { name := "image-installer"
    filename := "installer.iso"
    mimeType := "application/x-iso9660-image"
    family := .imageInstaller
    exportFormat := "bootiso"
    arches := efiArches
    aliases := ["fedora-image-installer"]
    bootMode := .hybrid
    allowed := some [.user, .group]
    packageSets := [("anaconda-tree", anaconda), ("os", imageInstallerOs)] },
  { name := "iot-commit"
    filename := "commit.tar"
    mimeType := "application/x-tar"
    family := .ostreeCommit
    exportFormat := "commit-archive"
    arches := efiArches
    aliases := ["fedora-iot-commit"]
    enabledServices := iotServices
    packageSets := [("os", iotCommit)]
    ostreeRef := iotRef },
  { name := "iot-container"
    filename := "container.tar"
    mimeType := "application/x-tar"
    family := .ostreeContainer
    exportFormat := "container"
    arches := efiArches
    aliases := ["fedora-iot-container"]
    enabledServices := iotServices
    packageSets := [("os", iotCommit), ("container-tree", containerTree)]
    ostreeRef := iotRef },
  { name := "iot-installer"
    filename := "installer.iso"
    mimeType := "application/x-iso9660-image"
    family := .ostreeInstaller
    exportFormat := "bootiso"
    arches := efiArches
    aliases := ["fedora-iot-installer"]
    bootMode := .hybrid
    allowed := some [.user, .group]
    packageSets := [("anaconda-tree", anaconda)]
    ostreeRef := iotRef },
  { name := "iot-qcow2-image"
    filename := "image.qcow2"
    mimeType := "application/x-qemu-disk"
    family := .ostreeDisk
    exportFormat := "qcow2"
    arches := efiArches
    bootMode := .uefi
    defaultSize := gibibytes 10
    allowed := some [.user, .group, .directories, .files, .services]
    kernelOptions := iotKernelOptions
    ostreeRef := iotRef },
  { name := "iot-raw-image"
    filename := "image.raw.xz"
    mimeType := "application/xz"
    family := .ostreeDisk
    exportFormat := "xz"
    arches := efiArches
    bootMode := .uefi
    defaultSize := gibibytes 4
    allowed := some [.user, .group, .directories, .files, .services]
    kernelOptions := iotKernelOptions
    ostreeRef := iotRef },
  { name := "iot-simplified-installer"
    filename := "simplified-installer.iso"
    mimeType := "application/x-iso9660-image"
    family := .simplifiedInstaller
    exportFormat := "bootiso"
    arches := efiArches
    minRelease := 38
    bootMode := .uefi
    defaultSize := gibibytes 10
    allowed := some [.installationDevice, .fdo, .ignition, .kernel, .user, .group, .fips]
    kernelOptions := iotKernelOptions
    packageSets := [("coi-tree", coreosInstaller)]
    ostreeRef := iotRef },
  { name := "live-installer"
    filename := "live-installer.iso"
    mimeType := "application/x-iso9660-image"
    family := .liveInstaller
    exportFormat := "bootiso"
    arches := efiArches
    bootMode := .hybrid
    allowed := some []
    packageSets := [("anaconda-tree", liveInstaller)] },
  { name := "minimal-raw"
    filename := "raw.img.xz"
    mimeType := "application/xz"
    family := .disk
    exportFormat := "xz"
    arches := efiArches
    bootMode := .uefi
    defaultSize := gibibytes 4
    kernelOptions := "ro"
    enabledServices := ["NetworkManager.service", "initial-setup.service", "sshd.service"]
    packageSets := [("os", minimalRaw)] },
  { name := "oci"
    filename := "disk.qcow2"
    mimeType := "application/x-qemu-disk"
    family := .disk
    exportFormat := "qcow2"
    arches := efiArches
    bootMode := .hybrid
    defaultSize := gibibytes 5
    kernelOptions := cloudKernelOptions
    enabledServices := cloudServices
    packageSets := [("os", oci)] },
  { name := "openstack"
    filename := "disk.qcow2"
    mimeType := "application/x-qemu-disk"
    family := .disk
    exportFormat := "qcow2"
    arches := efiArches
    bootMode := .hybrid
    defaultSize := gibibytes 5
    kernelOptions := cloudKernelOptions
    enabledServices := cloudServices
    packageSets := [("os", openstack)] },
  { name := "ova"
    filename := "image.ova"
    mimeType := "application/ovf"
    family := .disk
    exportFormat := "ova"
    arches := ["x86_64"]
    bootMode := .hybrid
    defaultSize := gibibytes 4
    kernelOptions := "ro net.ifnames=0"
    enabledServices := cloudServices ++ ["vmtoolsd.service"]
    packageSets := [("os", vmdk)] },
  { name := "qcow2"
    filename := "disk.qcow2"
    mimeType := "application/x-qemu-disk"
    family := .disk
    exportFormat := "qcow2"
    arches := allArches
    bootMode := .hybrid
    defaultSize := gibibytes 5
    kernelOptions := cloudKernelOptions
    enabledServices := cloudServices
    packageSets := [("os", qcow2)] },
  { name := "vhd"
    filename := "disk.vhd"
    mimeType := "application/x-vhd"
    family := .disk
    exportFormat := "vpc"
    arches := ["x86_64"]
    bootMode := .hybrid
    defaultSize := gibibytes 4
    kernelOptions := cloudKernelOptions
    enabledServices := cloudServices ++ ["waagent.service"]
    packageSets := [("os", vhd)]
    wholeMebibytes := true },
  { name := "vmdk"
    filename := "disk.vmdk"
    mimeType := "application/x-vmdk"
    family := .disk
    exportFormat := "vmdk"
    arches := ["x86_64"]
    bootMode := .hybrid
    defaultSize := gibibytes 4
    kernelOptions := "ro net.ifnames=0"
    enabledServices := cloudServices ++ ["vmtoolsd.service"]
    packageSets := [("os", vmdk)] },
  { name := "wsl"
    filename := "wsl.tar"
    mimeType := "application/x-tar"
    family := .container
    exportFormat := "archive"
    arches := ["x86_64"]
    packageSets := [("os", wsl)] }]

/-- All image types, in the order in which they are added. -/
def imageTypes : List ImageType := drafts.filterMap fun d => (ImageType.ofDraft d).toOption

end Imagewright.Catalog.Fedora
