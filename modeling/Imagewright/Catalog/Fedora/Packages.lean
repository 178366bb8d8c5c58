import Imagewright.Catalog.Registry

/-!
# Packages of Fedora images

The package sets of the image types, by architecture where architectures differ.

## Main definitions

* `Fedora.buildPackageSet`: the packages of the build root.
* `Fedora.packageRules`: the package sets of the pipelines, by name.
-/
namespace Imagewright.Catalog.Fedora

def buildPackages : List String := [
  "dnf", "dosfstools", "e2fsprogs", "policycoreutils", "qemu-img", "selinux-policy-targeted",
  "systemd", "tar", "xz"]

def familyBuildPackages : Family → List String
  | .ostreeCommit | .ostreeContainer | .ostreeDisk => ["rpm-ostree"]
  | .imageInstaller | .liveInstaller =>
    ["isomd5sum", "lorax-templates-generic", "squashfs-tools", "xorriso"]
  | .ostreeInstaller | .simplifiedInstaller =>
    ["isomd5sum", "lorax-templates-generic", "rpm-ostree", "squashfs-tools", "xorriso"]
  | .disk | .container => []

/-- The packages of the build root: those of every image, of the architecture and of the family. -/
def buildPackageSet (p : Platform) (f : Family) : PackageSet :=
  .ofNames (buildPackages ++ p.buildPackages ++ familyBuildPackages f)

def everywhere (s : PackageSet) : PackageRule := fun _ _ => s

/-- Packages for all architectures, and further ones for some. -/
def withArch (s : PackageSet) (more : List (String × List String)) : PackageRule := fun arch _ =>
  match more.lookup arch with
  | some names => s.append (.ofNames names)
  | none => s

def cloudBase : PackageSet := .ofNames
  ["@Fedora Cloud Server", "chrony", "langpacks-en", "selinux-policy-targeted", "systemd-udev"]
  ["dracut-config-rescue", "firewalld", "geolite2-city", "geolite2-country", "plymouth",
    "zram-generator-defaults"]

/-- The packages of a cloud image with further ones. -/
def cloud (install : List String) (exclude : List String := []) : PackageRule :=
  everywhere (cloudBase.append (.ofNames install exclude))

/-- The packages of a container. -/
def containerBase : PackageSet := .ofNames
  ["bash", "coreutils", "dnf", "fedora-release-container", "glibc-minimal-langpack", "rootfiles",
    "rpm", "sudo", "tar", "util-linux-core", "vim-minimal"]
  ["crypto-policies-scripts", "dbus-broker", "dosfstools", "e2fsprogs", "grubby", "kernel",
    "kernel-core", "langpacks-en", "nano", "sssd-client", "systemd", "xkeyboard-config"]

def minimalRaw : PackageRule := everywhere (.ofNames
  ["@core", "initial-setup", "libxkbcommon", "NetworkManager-wifi", "brcmfmac-firmware"]
  ["dracut-config-rescue"])

/-- The tree of the edition for devices, as it is committed. -/
def iotCommit : PackageRule := withArch
  (.ofNames [
    "fedora-release-iot", "glibc", "glibc-minimal-langpack", "nss-altfiles",
    "dracut-config-generic", "dracut-network", "polkit", "lvm2", "cryptsetup", "e2fsprogs",
    "xfsprogs", "dosfstools", "NetworkManager", "NetworkManager-wifi", "firewalld",
    "openssh-server", "sudo", "greenboot", "greenboot-default-health-checks", "ignition", "podman",
    "container-selinux", "skopeo", "clevis", "clevis-dracut", "clevis-luks", "clevis-pin-tpm2",
    "rpm-ostree", "fwupd", "usbguard"])
  [("x86_64", ["grub2-efi-x64", "efibootmgr", "shim-x64", "microcode_ctl"]),
    ("aarch64", ["grub2-efi-aa64", "efibootmgr", "shim-aa64", "uboot-images-armv8",
      "bcm283x-firmware", "arm-image-installer"])]

/-- The web server that serves a commit. -/
def containerTree : PackageRule := everywhere (.ofNames
  ["fedora-release-container", "glibc-minimal-langpack", "nginx"] ["kernel", "systemd"])

def anaconda : PackageRule := withArch
  (.ofNames [
    "anaconda", "anaconda-dracut", "anaconda-install-env-deps", "anaconda-widgets",
    "dracut-config-generic", "dracut-network", "efibootmgr", "glibc-all-langpacks", "grub2-tools",
    "grub2-tools-minimal", "kernel", "kernel-modules", "kernel-modules-extra", "linux-firmware",
    "lorax-templates-generic", "NetworkManager", "plymouth", "rng-tools", "rpm-ostree",
    "selinux-policy-targeted", "systemd", "xorg-x11-server-Xorg"]
    ["dracut-config-rescue"])
  [("x86_64", ["biosdevname", "grub2-efi-x64-cdboot", "grub2-pc-modules", "shim-x64", "syslinux",
      "syslinux-nonlinux"]),
    ("aarch64", ["grub2-efi-aa64-cdboot", "shim-aa64"])]

def imageInstallerOs : PackageRule := everywhere (.ofNames
  ["@core", "fedora-release", "kernel", "selinux-policy-targeted"] ["dracut-config-rescue"])

/-- A live workstation with the installer. -/
def liveInstaller : PackageRule := fun arch releasever =>
  (anaconda arch releasever).append (.ofNames
    ["@workstation-product-environment", "anaconda-live", "dracut-live", "livesys-scripts"]
    ["@dial-up", "@input-methods", "@standard", "device-mapper-multipath", "fcoe-utils",
      "gfs2-utils"])

def coreosInstaller : PackageRule := withArch
  (.ofNames [
    "coreos-installer", "coreos-installer-dracut", "coreutils", "dracut-network", "fdo-init",
    "fdo-client", "fdo-owner-cli", "ignition", "kernel", "lvm2", "policycoreutils", "rpm-ostree",
    "systemd", "xz"])
  [("x86_64", ["grub2-efi-x64", "shim-x64", "microcode_ctl"]),
    ("aarch64", ["grub2-efi-aa64", "shim-aa64"])]

/-- The packages of a machine image for a public cloud. -/
def ami : PackageRule := everywhere cloudBase

@[inherit_doc cloud]
def qcow2 : PackageRule := cloud ["qemu-guest-agent"]

@[inherit_doc cloud]
def openstack : PackageRule := cloud ["qemu-guest-agent", "spice-vdagent", "xen-libs"]

@[inherit_doc cloud]
def oci : PackageRule := cloud ["iscsi-initiator-utils"]

@[inherit_doc cloud]
def vhd : PackageRule := cloud ["WALinuxAgent"]

@[inherit_doc cloud]
def vmdk : PackageRule := cloud ["open-vm-tools"] ["cloud-utils-growpart"]

@[inherit_doc containerBase]
def container : PackageRule := everywhere containerBase

/-- The packages of a container that runs under another system. -/
def wsl : PackageRule := everywhere (containerBase.append (.ofNames ["passwd", "shadow-utils"]))

/-- The package sets of the pipelines, by name. -/
def packageRules : List (String × PackageRule) := [
  ("cloud_base", everywhere cloudBase), ("ami", ami), ("qcow2", qcow2), ("openstack", openstack),
  ("oci", oci), ("vhd", vhd), ("vmdk", vmdk), ("minimal_raw", minimalRaw),
  ("container", container), ("wsl", wsl), ("iot_commit", iotCommit),
  ("container_tree", containerTree), ("anaconda", anaconda),
  ("image_installer_os", imageInstallerOs), ("live_installer", liveInstaller),
  ("coreos_installer", coreosInstaller)]

end Imagewright.Catalog.Fedora
