/-
  Media types of manifests, configs and layers, and the manifest dialects they tell apart.
-/

namespace OciCompose

namespace MediaType

def ociManifest : String := "application/vnd.oci.image.manifest.v1+json"
def ociIndex : String := "application/vnd.oci.image.index.v1+json"
def ociConfig : String := "application/vnd.oci.image.config.v1+json"
def ociLayer : String := "application/vnd.oci.image.layer.v1.tar+gzip"
def dockerManifest : String := "application/vnd.docker.distribution.manifest.v2+json"
def dockerManifestList : String := "application/vnd.docker.distribution.manifest.list.v2+json"
def dockerConfig : String := "application/vnd.docker.container.image.v1+json"
def dockerLayer : String := "application/vnd.docker.image.rootfs.diff.tar.gzip"

end MediaType

/-- What a manifest is, by its media type. -/
inductive ManifestKind where
  | ociManifest
  | ociIndex
  | dockerManifest
  | dockerManifestList
  | other (mediaType : String)
deriving DecidableEq

namespace ManifestKind

def ofMediaType (t : String) : ManifestKind :=
  if t = MediaType.ociManifest then .ociManifest
  else if t = MediaType.ociIndex then .ociIndex
  else if t = MediaType.dockerManifest then .dockerManifest
  else if t = MediaType.dockerManifestList then .dockerManifestList
  else .other t

def isIndex : ManifestKind → Bool
  | .ociIndex | .dockerManifestList => true
  | _ => false

def isImage : ManifestKind → Bool
  | .ociManifest | .dockerManifest => true
  | _ => false

def isOci : ManifestKind → Bool
  | .ociManifest | .ociIndex => true
  | _ => false

/-- The media type of layers in this dialect. -/
def layerMediaType (k : ManifestKind) : String :=
  if k.isOci then MediaType.ociLayer else MediaType.dockerLayer

/-- The media type of configs in this dialect. -/
def configMediaType (k : ManifestKind) : String :=
  if k.isOci then MediaType.ociConfig else MediaType.dockerConfig

end ManifestKind

end OciCompose
