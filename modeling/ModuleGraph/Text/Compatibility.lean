import ModuleGraph.Text.Case
import Std.Data.HashMap

/-! Compatibility composition of identifiers: every character is replaced by its compatibility
decomposition, marks are put in canonical order, and pairs are composed again. The tables hold
what identifiers can contain. -/

namespace ModuleGraph.Text

/-- Decompositions into one character, in groups `first count step target`. -/
def singleGroups : List String :=
  ["4q 1 1 2p 51 1 1 qk 56 1 1 33 an 1 1 37 j4 1 1 2w j5 1 1 h2 j6 1 1 2y j7 1 1 36 j8 1 1 hl j9",
   "1 1 hn ja 1 1 ht jb 1 1 3b jc 1 1 3d kg 1 1 gz kh 1 1 30 ki 1 1 37 kj 1 1 3c kk 1 1 id n4 2",
   "1 lc n7 1 1 lv ok 1 1 jd p3 1 1 53 r4 1 1 qa r5 1 1 qg r6 1 1 px r9 1 1 qu ra 1 1 qo s0 1 1",
   "qi s1 2 1 qp s4 1 1 pk s5 1 1 qd s9 1 1 pv 3cs 1 1 3bw 5rg 1 1 1t 5rh 1 1 5i 5ri 1 1 1u 5rk",
   "2 1 1w 5rm 1 1 b2 5rn 8 1 1z 5rw 1 1 27 5rx 1 1 f6 5ry 1 1 28 5rz 1 1 2a 5s0 2 1 2c 5s2 1 1",
   "2f 5s3 1 1 2p 5s4 2 1 gg 5s6 1 1 5qa 5s7 1 1 2q 5s8 2 1 2s 5sa 1 1 gp 5sb 2 1 gr 5sd 1 1 2v",
   "5sf 1 1 2z 5sg 1 1 31 5sh 1 1 97 5si 1 1 33 5sj 1 1 gk 5sk 2 1 5qu 5sm 1 1 34 5sn 2 1 38 5sp",
   "1 1 5r1 5sq 1 1 hb 5sr 1 1 3a 5ss 1 1 5r9 5st 3 1 qa 5sw 2 1 qu 5sy 1 1 2x 5sz 1 1 36 5t0 2",
   "1 39 5t2 2 1 qa 5t4 1 1 qp 5t5 2 1 qu 5tk 1 1 u5 5uj 1 1 gi 5uk 1 1 2r 5ul 1 1 gl 5um 1 1 6o",
   "5un 1 1 gs 5uo 1 1 2u 5up 1 1 gv 5uq 1 1 gx 5ur 1 1 h1 5us 3 1 h4 5uv 1 1 5tn 5uw 1 1 il 5ux",
   "1 1 h9 5uy 1 1 5tx 5uz 1 1 in 5v0 1 1 hd 5v1 1 1 hc 5v2 4 1 he 5v6 1 1 hk 5v7 2 1 hu 5v9 1 1",
   "bv 5va 2 1 i1 5vc 1 1 5r0 5vd 2 1 i3 5vf 1 1 3e 5vg 3 1 i8 5vj 1 1 qg 69q 1 1 qh 6ep 1 1 2x",
   "6f3 1 1 32 6fk 1 1 2p 6fl 1 1 2t 6fm 1 1 33 6fn 1 1 3c 6fo 1 1 gp 6fp 1 1 2w 6fq 4 1 2z 6fu",
   "1 1 34 6fv 2 1 37 6iq 1 1 1v 6iv 1 1 b4 6iy 1 1 2v 6iz 1 1 20 6j0 1 1 20 6j1 1 1 20 6j2 1 1",
   "2w 6j3 1 1 87 6j4 1 1 21 6j5 1 1 21 6j6 1 1 24 6j7 1 1 30 6j9 1 1 26 6jd 3 1 28 6jg 1 1 2a",
   "6jh 1 1 2a 6jo 1 1 2i 6jq 1 1 q1 6js 1 1 2i 6ju 1 1 23 6jw 2 1 1u 6jz 1 1 2t 6k0 2 1 1x 6k3",
   "1 1 25 6k4 1 1 33 6k5 4 1 15c 6k9 1 1 2x 6kc 1 1 qo 6kd 1 1 qb 6ke 1 1 pf 6kf 1 1 ps 6kl 1 1",
   "1w 6km 2 1 2s 6ko 2 1 2x 6lc 1 1 21 6lg 1 1 2e 6ll 1 1 2g 6lo 1 1 24 6lp 2 1 1v 6lr 1 1 25",
   "6ls 1 1 2x 6lw 1 1 3a 6m1 1 1 3c 6m4 1 1 30 6m5 2 1 2r 6m7 1 1 31 8sc 1 1 2y 8sd 1 1 2e 8z3",
   "1 1 8yp 9iw 1 1 gg1 9ix 2 1 gg4 9pt 2 1 3cw 9pv 1 1 3hm 9pw 1 1 3cy 9px 2 1 3ho 9pz 3 1 3cz",
   "9q2 6 1 3hs 9q8 1 1 3dm 9q9 3 1 3d2 9qc 1 1 3dt 9qd a 1 3d5 9qn l 1 3fl 9r8 1 1 3fk 9r9 2 1",
   "3dg 9rb 2 1 3if 9rd 1 1 3ik 9re 1 1 3im 9rf 1 1 3ir 9rg 1 1 3iv 9rh 1 1 3ix 9ri 1 1 3do 9rj",
   "1 1 3j1 9rk 1 1 3j3 9rl 2 1 3dp 9rn 1 1 3ds 9ro 2 1 3du 9rq 1 1 3dz 9rr 1 1 3e1 9rs 5 1 3e3",
   "9rx 1 1 3ea 9ry 1 1 3ee 9rz 1 1 3eo 9s0 1 1 3ev 9s1 1 1 3f0 9s2 2 1 3jl 9s4 3 1 3fb 9s7 2 1",
   "3gk 9s9 1 1 3go 9sa 2 1 3gx 9sc 1 1 3h0 9sd 1 1 3ha 9se 1 1 3hd wws 1 1 ui wwt 1 1 uk x2o 1",
   "1 x2n x6a 1 1 1v x6b 1 1 1y x6c 1 1 29 x6g 1 1 86 x6h 1 1 9f xuk 1 1 x0n xul 1 1 xtj xum 1 1",
   "h7 xun 1 1 xua xux 1 1 i5 1d6o 1 1 rpk 1d6p 1 1 kc4 1d6q 1 1 s7e 1d6r 1 1 rt4 1d6s 1 1 lw1",
   "1d6t 1 1 fg2 1d6u 1 1 gkl 1d6v 1 1 vj0 1d6w 1 1 vj0 1d6x 1 1 hn5 1d6y 1 1 ssx 1d6z 1 1 gw7",
   "1d70 1 1 hmw 1d71 1 1 jcm 1d72 1 1 ne1 1d73 1 1 p6t 1d74 1 1 qin 1d75 1 1 qt6 1d76 1 1 r20",
   "1d77 1 1 sjz 1d78 1 1 kxu 1d79 1 1 ljv 1d7a 1 1 mah 1d7b 1 1 mvy 1d7c 1 1 q4d 1d7d 1 1 sq2",
   "1d7e 1 1 uep 1d7f 1 1 fia 1d7g 1 1 ghh 1d7h 1 1 l50 1d7i 1 1 mjf 1d7j 1 1 qi5 1d7k 1 1 v8e",
   "1d7l 1 1 ifk 1d7m 1 1 m3v 1d7n 1 1 qfh 1d7o 1 1 r50 1d7p 1 1 jih 1d7q 1 1 pnc 1d7r 1 1 qvz",
   "1d7s 1 1 iq2 1d7t 1 1 kd3 1d7u 1 1 lm2 1d7v 1 1 mpo 1d7w 1 1 slq 1d7x 1 1 fpi 1d7y 1 1 g53",
   "1d7z 1 1 gda 1d80 1 1 jwk 1d81 1 1 l3n 1d82 1 1 mj4 1d83 1 1 nhj 1d84 1 1 pa9 1d85 1 1 qh2",
   "1d86 1 1 qjg 1d87 1 1 s1b 1d88 1 1 tv6 1d89 1 1 upb 1d8a 1 1 v7e 1d8b 1 1 nt8 1d8c 1 1 nzz",
   "1d8d 1 1 otc 1d8e 1 1 q15 1d8f 1 1 t1g 1d8g 1 1 vb3 1d8h 1 1 rfa 1d8i 1 1 hjz 1d8j 1 1 iro",
   "1d8k 1 1 okg 1d8l 1 1 pdq 1d8m 1 1 mle 1d8n 1 1 nuy 1d8o 1 1 rsy 1d8p 1 1 ttj 1d8q 1 1 hjs",
   "1d8r 1 1 i8y 1d8s 1 1 kyb 1d8t 1 1 lp6 1d8u 1 1 lxr 1d8v 1 1 oq7 1d8w 1 1 oxj 1d8x 1 1 tor",
   "1d8y 1 1 gcy 1d8z 1 1 pe3 1d90 1 1 g64 1d91 1 1 g5o 1d92 1 1 o4c 1d93 1 1 ou6 1d94 1 1 q29",
   "1d95 1 1 tpx 1d96 1 1 rk0 1d97 1 1 jin 1d98 1 1 kxu 1d99 1 1 rge 1d9a 1 1 fg9 1d9b 1 1 i5j",
   "1d9c 1 1 iz6 1d9d 1 1 mtj 1d9e 1 1 n74 1d9f 1 1 gev 1d9g 1 1 nwb 1d9h 1 1 fr3 1d9i 1 1 iw9",
   "1d9j 1 1 ff1 1d9k 1 1 lho 1d9l 1 1 k1k 1d9m 1 1 opu 1d9n 1 1 gjn 1d9o 1 1 hge 1d9p 1 1 ni9",
   "1d9q 1 1 q4p 1d9r 1 1 re2 1d9s 1 1 la2 1d9t 1 1 sds 1d9u 1 1 lfs 1d9v 1 1 jjy 1d9w 1 1 put",
   "1d9x 1 1 jog 1d9y 1 1 n6t 1d9z 1 1 fji 1da0 1 1 g2x 1da1 1 1 g5l 1da2 1 1 kn5 1da3 1 1 oo7",
   "1da4 1 1 prj 1da5 1 1 rf6 1da6 1 1 ssv 1da7 1 1 gdx 1da8 1 1 gn6 1da9 1 1 ho3 1daa 1 1 ir0",
   "1dab 1 1 k3p 1dac 1 1 m4e 1dad 1 1 nxm 1dae 1 1 tkd 1daf 1 1 ui2 1dag 1 1 vbr 1dah 1 1 vda",
   "1dai 1 1 gbf 1daj 1 1 kau 1dak 1 1 l87 1dal 1 1 sbm 1dam 1 1 ino 1dan 1 1 j9s 1dao 1 1 jcw",
   "1dap 1 1 jve 1daq 1 1 lyb 1dar 1 1 mdl 1das 1 1 n0p 1dat 1 1 o22 1dau 1 1 ovo 1dav 1 1 pdb",
   "1daw 1 1 s9y 1dax 1 1 q9a 1day 1 1 sgz 1daz 1 1 t3e 1db0 1 1 g7r 1db1 1 1 gbn 1db2 1 1 gql",
   "1db3 1 1 ma0 1db4 1 1 r0i 1db5 1 1 re2 1db6 1 1 iq1 1db7 1 1 iyd 1db8 1 1 jnf 1db9 1 1 l9q",
   "1dba 1 1 oji 1dbb 1 1 mt1 1dbc 1 1 fl0 1dbd 1 1 h6h 1dbe 1 1 i5j 1dbf 1 1 iii 1dbg 1 1 izg",
   "1dbh 1 1 muq 1dbi 1 1 mzt 1dbj 1 1 p7e 1dbk 1 1 pc6 1dbl 1 1 svo 1dbm 1 1 tti 1dbn 1 1 tvs",
   "1dbo 1 1 u1k 1dbp 1 1 fpn 1dbq 1 1 o1a 1dbr 1 1 ss4 1dbs 1 1 trs 1dbt 1 1 j4x 1dbu 1 1 fie",
   "1dbv 1 1 fyy 1dbw 1 1 i5q 1dbx 1 1 i7z 1dby 1 1 k2h 1dbz 1 1 kxu 1dc0 1 1 mha 1dc1 1 1 ncy",
   "1dc2 1 1 q9o 1dc3 1 1 sjg 1dc4 1 1 vil 1dc5 1 1 k94 1dc6 1 1 tny 1dc7 1 1 gax 1dc8 1 1 kfv",
   "1dc9 1 1 kj7 1dca 1 1 lkx 1dcb 1 1 luk 1dcc 1 1 mx5 1dcd 1 1 n6h 1dce 1 1 nsb 1dcf 1 1 opc",
   "1dcg 1 1 u3i 1dch 1 1 g31 1dci 1 1 je6 1dcj 1 1 tq0 1dck 1 1 fu3 1dcl 1 1 ie1 1dcm 1 1 lpm",
   "1dcn 1 1 sa2 1dco 1 1 ivf 1dcp 1 1 j7o 1dcq 1 1 kk7 1dcr 1 1 mtj 1dcs 1 1 tqe 1dct 1 1 g89",
   "1dcu 1 1 glr 1dcv 1 1 i91 1dcw 1 1 k5v 1dcx 1 1 kem 1dcy 1 1 ko8 1dcz 1 1 lid 1dd0 1 1 mx2",
   "1dd1 1 1 naa 1dd2 1 1 p6h 1dd3 1 1 r0v 1dd4 1 1 r1d 1dd5 1 1 sss 1dd6 1 1 tsy 1dd7 1 1 gfz",
   "1dd8 1 1 lve 1dd9 1 1 gm5 1dda 1 1 mhc 1ddb 1 1 n14 1ddc 1 1 qgq 1ddd 1 1 tr7 1dde 1 1 uvr",
   "1ddf 1 1 vbz 1ddg 1 1 kgn 1ddh 1 1 lor 1ddi 1 1 pns 1ddj 1 1 o97 1ddk 1 1 obk 1ddl 1 1 olu",
   "1ddm 1 1 mo0 1ddn 1 1 m8p 1ddo 1 1 riw 1ddp 1 1 fk0 1ddq 1 1 px2 1ddr 1 1 g8q 1dds 1 1 g7b",
   "1ddt 1 1 ip2 1ddu 1 1 jir 1ddv 1 1 onq 1ddw 1 1 i2t 1ddx 1 1 ljy 1ddy 1 1 kac 1ddz 1 1 saj",
   "1de0 1 1 qx8 1de1 1 1 tot 1de2 1 1 r63 1de3 1 1 iqb 1de4 1 1 g1s 1de5 1 1 gxs 1de8 1 1 hga",
   "1dea 1 1 k8k 1ded 1 1 g66 1dee 1 1 mqy 1def 1 1 ngq 1deg 1 1 ny4 1deh 1 1 nz2 1dei 1 1 nz9",
   "1dej 1 1 o0f 1dek 1 1 tw6 1del 1 1 on2 1dem 1 1 p8d 1deo 1 1 qhe 1deq 1 1 rg8 1det 1 1 shk",
   "1deu 1 1 sn1 1dey 1 1 u7j 1dez 1 1 u7w 1df0 1 1 u94 1df1 1 1 v5g 1df2 1 1 sm6 1df3 1 1 trr",
   "1df4 1 1 fqm 1df5 1 1 fzb 1df6 1 1 g25 1df7 1 1 gcp 1df8 1 1 gdg 1df9 1 1 ggh 1dfa 1 1 gwt",
   "1dfb 1 1 gzq 1dfc 1 1 h2g 1dfd 1 1 hfk 1dfe 1 1 hig 1dff 1 1 i90 1dfg 1 1 i9a 1dfh 1 1 j2s",
   "1dfi 1 1 j8o 1dfj 1 1 j9q 1dfk 1 1 jci 1dfl 1 1 k0f 1dfm 1 1 k4i 1dfn 1 1 k9d 1dfo 1 1 kn9",
   "1dfp 1 1 lmf 1dfq 1 1 lqy 1dfr 1 1 lya 1dfs 1 1 mem 1dft 1 1 mjv 1dfu 1 1 mxu 1dfv 1 1 ntd",
   "1dfw 1 1 ny6 1dfx 1 1 nyh 1dfy 1 1 nyg 1dfz 1 1 nyo 1dg0 1 1 nyu 1dg1 1 1 nz1 1dg2 2 1 o0d",
   "1dg4 1 1 o5c 1dg5 1 1 o75 1dg6 1 1 og0 1dg7 1 1 ovo 1dg8 1 1 ow9 1dg9 1 1 oxt 1dga 1 1 p6a",
   "1dgb 1 1 pad 1dgc 1 1 pnx 1dgd 1 1 prt 1dge 1 1 prt 1dgf 1 1 q53 1dgg 1 1 r2o 1dgh 1 1 r6e",
   "1dgi 1 1 rgh 1dgj 1 1 ri1 1dgk 1 1 rtf 1dgl 1 1 ruw 1dgm 1 1 sdy 1dgn 1 1 shk 1dgo 1 1 tsz",
   "1dgp 1 1 u0v 1dgq 1 1 u2j 1dgr 1 1 j1x 1dgs 1 1 36cu 1dgt 1 1 pp4 1dgw 1 1 ffq 1dgx 1 1 g51",
   "1dgy 1 1 g2w 1dgz 1 1 fpc 1dh0 1 1 g1x 1dh1 1 1 g3k 1dh2 1 1 gcn 1dh3 1 1 ge2 1dh4 1 1 gwt",
   "1dh5 1 1 gut 1dh6 1 1 gwp 1dh7 1 1 gyq 1dh8 1 1 hga 1dh9 1 1 hir 1dha 1 1 hms 1dhb 1 1 hn8",
   "1dhc 1 1 huq 1dhd 1 1 i08 1dhe 1 1 iqa 1dhf 1 1 iqh 1dhg 1 1 iuh 1dhh 1 1 iwd 1dhi 1 1 j4o",
   "1dhj 1 1 j7y 1dhk 1 1 j60 1dhl 1 1 j9q 1dhm 1 1 j8g 1dhn 1 1 jci 1dho 1 1 jec 1dhp 1 1 jpg",
   "1dhq 1 1 jrw 1dhr 1 1 jte 1dhs 1 1 k0m 1dht 1 1 k8k 1dhu 1 1 kd3 1dhv 1 1 kd7 1dhw 1 1 keu",
   "1dhx 1 1 l89 1dhy 1 1 la2 1dhz 1 1 lkx 1di0 1 1 lwb 1di1 1 1 lvv 1di2 1 1 lya 1di3 1 1 m5a",
   "1di4 1 1 mem 1di5 1 1 nmv 1di6 1 1 mk5 1di7 1 1 mnj 1di8 1 1 mqy 1di9 1 1 n01 1dia 1 1 n46",
   "1dib 1 1 n5n 1dic 1 1 nbx 1did 1 1 nbz 1die 1 1 ngq 1dif 1 1 nh7 1dig 1 1 nhw 1dih 1 1 nka",
   "1dii 1 1 nk0 1dij 1 1 nv0 1dik 1 1 o8h 1dil 1 1 og0 1dim 1 1 ol7 1din 1 1 orf 1dio 1 1 ovo",
   "1dip 1 1 p4u 1diq 1 1 pad 1dir 1 1 pxu 1dis 1 1 q27 1dit 1 1 qrd 1diu 1 1 r41 1div 1 1 r5y",
   "1diw 1 1 r6e 1dix 1 1 ren 1diy 1 1 rg8 1diz 1 1 rez 1dj0 1 1 rgh 1dj1 1 1 rge 1dj2 1 1 rfx",
   "1dj3 1 1 ri1 1dj4 1 1 rka 1dj5 1 1 ruw 1dj6 1 1 sag 1dj7 1 1 sj6 1dj8 1 1 srd 1dj9 1 1 sxi",
   "1dja 1 1 tq4 1djb 1 1 tsz 1djc 1 1 tw6 1djd 1 1 tzv 1dje 1 1 u0v 1djf 1 1 u17 1djg 1 1 u2j",
   "1djh 1 1 umq 1dji 1 1 vj0 1djj 1 1 313e 1djk 1 1 3138 1djl 1 1 33dh 1djm 1 1 brx 1djn 1 1",
   "cns 1djo 1 1 cop 1djp 1 1 39e1 1djq 1 1 3bgw 1djr 1 1 3i6r 1djs 1 1 vgj 1djt 1 1 vim 1dls 1",
   "1 15u 1dlt 1 1 15c 1dlu 2 1 15f 1dlw 3 1 15n 1dlz 1 1 160 1dm0 1 1 162 1dn4 1 1 19t 1dn5 1 1",
   "19t 1dn6 1 1 1a3 1dn7 1 1 1a3 1dn8 1 1 1a3 1dn9 1 1 1a3 1dna 1 1 1a6 1dnb 1 1 1a6 1dnc 1 1",
   "1a6 1dnd 1 1 1a6 1dne 1 1 1a8 1dnf 1 1 1a8 1dng 1 1 1a8 1dnh 1 1 1a8 1dni 1 1 1a2 1dnj 1 1",
   "1a2 1dnk 1 1 1a2 1dnl 1 1 1a2 1dnm 1 1 1a7 1dnn 1 1 1a7 1dno 1 1 1a7 1dnp 1 1 1a7 1dnq 1 1",
   "1a1 1dnr 1 1 1a1 1dns 1 1 1a1 1dnt 1 1 1a1 1dnu 1 1 1b8 1dnv 1 1 1b8 1dnw 1 1 1b8 1dnx 1 1",
   "1b8 1dny 1 1 1ba 1dnz 1 1 1ba 1do0 1 1 1ba 1do1 1 1 1ba 1do2 1 1 1ac 1do3 1 1 1ac 1do4 1 1",
   "1ac 1do5 1 1 1ac 1do6 1 1 1ab 1do7 1 1 1ab 1do8 1 1 1ab 1do9 1 1 1ab 1doa 1 1 1ae 1dob 1 1",
   "1ae 1doc 1 1 1ae 1dod 2 1 1ae 1dof 1 1 1af 1dog 1 1 1af 1doh 1 1 1af 1doi 1 1 1al 1doj 1 1",
   "1al 1dok 1 1 1ak 1dol 1 1 1ak 1dom 1 1 1am 1don 1 1 1am 1doo 1 1 1ag 1dop 1 1 1ag 1doq 1 1",
   "1aw 1dor 1 1 1aw 1dos 1 1 1ap 1dot 1 1 1ap 1dou 1 1 1bd 1dov 1 1 1bd 1dow 1 1 1bd 1dox 1 1",
   "1bd 1doy 1 1 1bj 1doz 1 1 1bj 1dp0 1 1 1bj 1dp1 1 1 1bj 1dp2 1 1 1bn 1dp3 1 1 1bn 1dp4 1 1",
   "1bn 1dp5 1 1 1bn 1dp6 1 1 1bl 1dp7 1 1 1bl 1dp8 1 1 1bl 1dp9 1 1 1bl 1dpa 1 1 1bu 1dpb 2 1",
   "1bu 1dpd 1 1 1bv 1dpe 1 1 1bv 1dpf 1 1 1bv 1dpi 1 1 1c1 1dpj 1 1 1c1 1dpk 1 1 1c1 1dpl 1 1",
   "1c1 1dpm 1 1 1by 1dpn 1 1 1by 1dpo 1 1 1by 1dpp 1 1 1by 1dpq 1 1 1ci 1dpr 1 1 1ci 1dqr 1 1",
   "1bh 1dqs 1 1 1bh 1dqt 1 1 1bh 1dqu 1 1 1bh 1dqv 1 1 1c7 1dqw 1 1 1c7 1dqx 1 1 1c6 1dqy 1 1",
   "1c6 1dqz 1 1 1c8 1dr0 1 1 1c8 1dr2 1 1 1cb 1dr3 1 1 1cb 1dr4 1 1 1c5 1dr5 1 1 1c5 1dr6 1 1",
   "1c9 1dr7 1 1 1c9 1dr8 1 1 1cg 1dr9 1 1 1cg 1dra 1 1 1cg 1drb 1 1 1cg 1drc 1 1 18p 1drd 1 1",
   "18p 1drw 1 1 1cc 1drx 1 1 1cc 1dry 1 1 1cc 1drz 1 1 1cc 1e7n 1 1 2n 1e7o 1 1 2n 1e8d 1 1 2n",
   "1e8e 1 1 2n 1e8f 1 1 2n 1e9s 1 1 17l 1ea5 1 1 17r 1ea6 2 1 17r 1ea8 1 1 17s 1ea9 1 1 17s",
   "1eaa 2 1 17s 1eac 2 1 17t 1eae 1 1 17u 1eaf 1 1 17u 1eag 2 1 17u 1eai 1 1 17v 1eaj 1 1 17v",
   "1eak 2 1 17v 1eam 1 1 17w 1ean 1 1 17w 1eao 2 1 17w 1eaq 1 1 17x 1ear 1 1 17x 1eas 2 1 17x",
   "1eau 1 1 17y 1eav 1 1 17y 1eaw 2 1 17y 1eay 2 1 17z 1eb0 2 1 180 1eb2 2 1 181 1eb4 2 1 182",
   "1eb6 1 1 183 1eb7 1 1 183 1eb8 2 1 183 1eba 1 1 184 1ebb 1 1 184 1ebc 2 1 184 1ebe 1 1 185",
   "1ebf 1 1 185 1ebg 2 1 185 1ebi 1 1 186 1ebj 1 1 186 1ebk 2 1 186 1ebm 1 1 187 1ebn 1 1 187",
   "1ebo 2 1 187 1ebq 1 1 188 1ebr 1 1 188 1ebs 2 1 188 1ebu 1 1 189 1ebv 1 1 189 1ebw 2 1 189",
   "1eby 1 1 18a 1ebz 1 1 18a 1ec0 1 1 18a 1ec1 1 1 18h 1ec2 1 1 18h 1ec3 1 1 18h 1ec4 2 1 18h",
   "1ec6 1 1 18i 1ec7 1 1 18i 1ec8 2 1 18i 1eca 1 1 18j 1ecb 1 1 18j 1ecc 2 1 18j 1ece 1 1 18k",
   "1ecf 1 1 18k 1ecg 2 1 18k 1eci 1 1 18l 1ecj 1 1 18l 1eck 2 1 18l 1ecm 1 1 18m 1ecn 1 1 18m",
   "1eco 2 1 18m 1ecq 1 1 18n 1ecr 1 1 18n 1ecs 2 1 18n 1ecu 2 1 18o 1ecw 2 1 18p 1ecy 1 1 18q",
   "1ecz 1 1 18q 1ed0 1 1 18q 1eds a 1 1c 1ee9 q 1 1t 1ef3 1 1 2n 1ef5 q 1 2p 1eg6 1 1 9o2 1eg7",
   "1 1 9lt 1eg8 1 1 9lv 1eg9 1 1 9lx 1ega 1 1 9lz 1egb 1 1 9m1 1egc 1 1 9nn 1egd 1 1 9np 1ege 1",
   "1 9nr 1egf 1 1 9mr 1egg 1 1 9oc 1egh 1 1 9lu 1egi 1 1 9lw 1egj 1 1 9ly 1egk 1 1 9m0 1egl 2 1",
   "9m2 1egn 1 1 9m5 1ego 1 1 9m7 1egp 1 1 9m9 1egq 1 1 9mb 1egr 1 1 9md 1egs 1 1 9mf 1egt 1 1",
   "9mh 1egu 1 1 9mj 1egv 1 1 9ml 1egw 1 1 9mn 1egx 1 1 9mp 1egy 1 1 9ms 1egz 1 1 9mu 1eh0 1 1",
   "9mw 1eh1 6 1 9my 1eh7 1 1 9n6 1eh8 1 1 9n9 1eh9 1 1 9nc 1eha 1 1 9nf 1ehb 5 1 9ni 1ehg 1 1",
   "9no 1ehh 1 1 9nq 1ehi 6 1 9ns 1eho 1 1 9nz 1ehp 1 1 9o3 1ehq 2 1 9ll 1ehs 1 1 3fk 1eht 2 1",
   "3cw 1ehv 1 1 3hm 1ehw 1 1 3cy 1ehx 2 1 3ho 1ehz 3 1 3cz 1ei2 6 1 3hs 1ei8 1 1 3dm 1ei9 3 1",
   "3d2 1eic 1 1 3dt 1eid a 1 3d5 1eiq 6 1 3fl 1eiy 6 1 3fr 1ej6 6 1 3fx 1eje 3 1 3g3 1g1t 2 1",
   "k0 1g1v 1 1 6e 1g1w 1 1 ih 1g1x 1 1 gj 1g1z 1 1 ir 1g20 1 1 xuu 1g21 1 1 it 1g22 1 1 is 1g23",
   "2 1 gm 1g25 1 1 5u9 1g26 1 1 go 1g27 1 1 gu 1g28 1 1 ix 1g29 1 1 h0 1g2a 1 1 gy 1g2b 1 1 gw",
   "1g2c 1 1 ij 1g2d 1 1 87 1g2e 1 1 ik 1g2f 1 1 h3 1g2g 1 1 hw 1g2h 2 1 iy 1g2j 1 1 h8 1g2k 1 1",
   "2mmc 1g2l 1 1 x3i 1g2m 1 1 ha 1g2n 1 1 2mmd 1g2o 1 1 i6 1g2p 1 1 2mme 1g2q 1 1 6w 1g2r 2 1",
   "hi 1g2t 1 1 35 1g2u 1 1 hm 1g2v 1 1 2mmg 1g2w 2 1 hp 1g2y 1 1 hs 1g2z 1 1 iw 1g30 1 1 iu",
   "1g31 1 1 xuv 1g32 1 1 iv 1g33 1 1 i0 1g34 1 1 8s1 1g36 1 1 i7 1g37 2 1 ip 1g39 1 1 ig 1g3a 3",
   "1 cg 1g3d 1 1 2mmi 1g3e 1 1 2mn2 2kg0 q 1 1t 2kgq q 1 2p 2khg q 1 1t 2ki6 7 1 2p 2kie i 1 2x",
   "2kiw q 1 1t 2kjm q 1 2p 2kkc 1 1 1t 2kke 2 1 1v 2kki 1 1 1z 2kkl 2 1 22 2kkp 4 1 26 2kku 8 1",
   "2b 2kl2 4 1 2p 2kl7 1 1 2u 2kl9 7 1 2w 2klh b 1 34 2kls q 1 1t 2kmi q 1 2p 2kn8 2 1 1t 2knb",
   "4 1 1w 2knh 8 1 22 2knq 7 1 2b 2kny q 1 2p 2koo 2 1 1t 2kor 4 1 1w 2kow 5 1 21 2kp2 1 1 27",
   "2kp6 7 1 2b 2kpe q 1 2p 2kq4 q 1 1t 2kqu q 1 2p 2krk q 1 1t 2ksa q 1 2p 2kt0 q 1 1t 2ktq q 1",
   "2p 2kug q 1 1t 2kv6 q 1 2p 2kvw q 1 1t 2kwm q 1 2p 2kxc q 1 1t 2ky2 q 1 2p 2kys 1 1 8h 2kyt",
   "1 1 fr 2kyw h 1 pd 2kzd 1 1 pk 2kze 7 1 pv 2kzm p 1 q9 2l0c 1 1 qd 2l0d 1 1 qg 2l0e 1 1 qi",
   "2l0f 1 1 qu 2l0g 1 1 qp 2l0h 1 1 qo 2l0i h 1 pd 2l0z 1 1 pk 2l10 7 1 pv 2l18 p 1 q9 2l1y 1 1",
   "qd 2l1z 1 1 qg 2l20 1 1 qi 2l21 1 1 qu 2l22 1 1 qp 2l23 1 1 qo 2l24 h 1 pd 2l2l 1 1 pk 2l2m",
   "7 1 pv 2l2u p 1 q9 2l3k 1 1 qd 2l3l 1 1 qg 2l3m 1 1 qi 2l3n 1 1 qu 2l3o 1 1 qp 2l3p 1 1 qo",
   "2l3q h 1 pd 2l47 1 1 pk 2l48 7 1 pv 2l4g p 1 q9 2l56 1 1 qd 2l57 1 1 qg 2l58 1 1 qi 2l59 1 1",
   "qu 2l5a 1 1 qp 2l5b 1 1 qo 2l5c h 1 pd 2l5t 1 1 pk 2l5u 7 1 pv 2l62 p 1 q9 2l6s 1 1 qd 2l6t",
   "1 1 qg 2l6u 1 1 qi 2l6v 1 1 qu 2l6w 1 1 qp 2l6x 1 1 qo 2l6y 2 1 rg 2l72 a 1 1c 2l7c a 1 1c",
   "2l7m a 1 1c 2l7w a 1 1c 2l86 a 1 1c 2pkw 2 1 17r 2pky 1 1 17w 2pkz 1 1 17z 2pl1 1 1 18o 2pl2",
   "1 1 182 2pl3 1 1 17x 2pl4 1 1 187 2pl5 1 1 18q 2pl6 4 1 18j 2pla 1 1 183 2plb 1 1 189 2plc 1",
   "1 18h 2pld 1 1 185 2ple 1 1 18i 2plf 1 1 181 2plg 1 1 184 2plh 2 1 17u 2plj 1 1 17y 2plk 1 1",
   "180 2pll 1 1 186 2plm 1 1 188 2pln 1 1 18a 2plo 1 1 19q 2plp 1 1 1bu 2plq 1 1 1b5 2plr 1 1",
   "19r 2plt 1 1 17s 2plu 1 1 17w 2plw 1 1 18n 2plz 1 1 17x 2pm1 1 1 18q 2pm2 4 1 18j 2pm6 1 1",
   "183 2pm7 1 1 189 2pm8 1 1 18h 2pm9 1 1 185 2pma 1 1 18i 2pmc 1 1 184 2pmd 2 1 17u 2pmf 1 1",
   "17y 2pmh 1 1 186 2pmj 1 1 18a 2pmq 1 1 17w 2pmv 1 1 17x 2pmx 1 1 18q 2pmz 1 1 18k 2pn1 1 1",
   "18m 2pn2 1 1 183 2pn3 1 1 189 2pn5 1 1 185 2pn6 1 1 18i 2pn8 1 1 184 2pnb 1 1 17y 2pnd 1 1",
   "186 2pnf 1 1 18a 2pnh 1 1 1bu 2pnj 1 1 19r 2pnl 1 1 17s 2pnm 1 1 17w 2pno 1 1 18n 2pnr 1 1",
   "17x 2pns 1 1 187 2pnt 1 1 18q 2pnu 1 1 18j 2pnw 2 1 18l 2pny 1 1 183 2pnz 1 1 189 2po0 1 1",
   "18h 2po1 1 1 185 2po2 1 1 18i 2po4 1 1 184 2po5 2 1 17u 2po7 1 1 17y 2po9 1 1 186 2poa 1 1",
   "188 2pob 1 1 18a 2poc 1 1 19q 2poe 1 1 1b5 2pog 2 1 17r 2poi 1 1 17w 2poj 1 1 17z 2pok 2 1",
   "18n 2pom 1 1 182 2pon 1 1 17x 2poo 1 1 187 2pop 1 1 18q 2por 3 1 18k 2pou 1 1 183 2pov 1 1",
   "189 2pow 1 1 18h 2pox 1 1 185 2poy 1 1 18i 2poz 1 1 181 2pp0 1 1 184 2pp1 2 1 17u 2pp3 1 1",
   "17y 2pp4 1 1 180 2pp5 1 1 186 2pp6 1 1 188 2pp7 1 1 18a 2ppd 1 1 17s 2ppe 1 1 17w 2ppf 1 1",
   "17z 2pph 1 1 18o 2ppi 1 1 182 2ppj 1 1 17x 2ppk 1 1 187 2ppl 1 1 18q 2ppn 3 1 18k 2ppq 1 1",
   "183 2ppr 1 1 189 2pps 1 1 18h 2ppt 1 1 185 2ppu 1 1 18i 2ppv 1 1 181 2ppw 1 1 184 2ppx 2 1",
   "17u 2ppz 1 1 17y 2pq0 1 1 180 2pq1 1 1 186 2pq2 1 1 188 2pq3 1 1 18a 2sc0 a 1 1c 464g 1 1",
   "fgd 464h 1 1 fg8 464i 1 1 fgh 464j 1 1 2tcy 464k 1 1 fog 464l 1 1 fqm 464m 1 1 fqz 464n 1 1",
   "fsy 464o 1 1 fwa 464p 1 1 fx5 464q 1 1 fzb 464r 1 1 fyn 464s 1 1 ae6 464t 1 1 2ud6 464u 1 1",
   "g25 464v 1 1 g2c 464w 1 1 g2s 464x 1 1 g3b 464y 1 1 2u58 464z 1 1 aex 4650 1 1 g2v 4651 1 1",
   "g3x 4652 1 1 2u6j 4653 1 1 g47 4654 1 1 g4k 4655 1 1 fkc 4656 1 1 g4s 4657 1 1 g51 4658 1 1",
   "3ly7 4659 1 1 g6t 465a 1 1 g77 465b 1 1 afz 465c 1 1 g8r 465d 1 1 g92 465e 1 1 gaa 465f 1 1",
   "gaf 465g 1 1 ahh 465h 1 1 gcn 465i 1 1 gcp 465j 1 1 gdg 465k 1 1 ge2 465l 2 1 ged 465n 1 1",
   "gev 465o 1 1 gg9 465p 1 1 ggh 465q 1 1 ggq 465r 1 1 ghf 465s 1 1 ghp 465t 1 1 ghr 465u 1 1",
   "ghr 465v 1 1 ghr 465w 1 1 2v58 465x 1 1 m7k 465y 1 1 gju 465z 1 1 gkf 4660 1 1 2vdv 4661 1 1",
   "gkr 4662 1 1 gkx 4663 1 1 gli 4664 1 1 gpq 4665 1 1 gmw 4666 1 1 gnc 4667 1 1 go8 4668 1 1",
   "gpu 4669 1 1 gs6 466a 1 1 gsw 466b 1 1 gur 466c 1 1 gv7 466d 1 1 gw4 466e 1 1 gw4 466f 1 1",
   "gwp 466g 1 1 gx7 466h 1 1 gxf 466i 1 1 gxu 466j 1 1 h7a 466k 1 1 gzq 466l 1 1 h7b 466m 1 1",
   "h1t 466n 1 1 h2s 466o 1 1 g7b 466p 1 1 hke 466q 1 1 hce 466r 1 1 hdg 466s 1 1 he5 466t 1 1",
   "haj 466u 1 1 hf6 466v 1 1 hf5 466w 1 1 hik 466x 1 1 2x9g 466y 1 1 hki 466z 1 1 hkn 4670 1 1",
   "hl2 4671 1 1 hlm 4672 1 1 hlu 4673 1 1 hnm 4674 1 1 2xm0 4675 1 1 2xnu 4676 1 1 hrg 4677 1 1",
   "hsr 4678 1 1 ht3 4679 1 1 hqw 467a 1 1 huu 467b 1 1 aum 467c 1 1 av0 467d 1 1 hzc 467e 1 1",
   "i0u 467f 1 1 i0u 467g 1 1 2y88 467h 1 1 i4j 467i 1 1 i54 467j 1 1 i5j 467k 1 1 i5v 467l 1 1",
   "2yhk 467m 1 1 i67 467n 1 1 i6e 467o 1 1 itv 467p 1 1 i76 467q 1 1 ayp 467r 1 1 i8w 467s 1 1",
   "i9a 467t 1 1 ibk 467u 1 1 ia5 467v 1 1 2z1g 467w 1 1 if7 467x 1 1 2z1i 467y 1 1 ige 467z 1 1",
   "igb 4680 1 1 igs 4681 2 1 ijl 4683 1 1 b3j 4684 1 1 ikd 4685 1 1 ilk 4686 1 1 im5 4687 1 1",
   "ind 4688 1 1 b4y 4689 1 1 2zr7 468a 1 1 b5o 468b 1 1 ipc 468c 1 1 ipf 468d 1 1 ipi 468e 1 1",
   "iq2 468f 1 1 3pg2 468g 1 1 iri 468h 1 1 3035 468i 1 1 3035 468j 1 1 poh 468k 1 1 isi 468l 1",
   "1 isi 468m 1 1 b7r 468n 1 1 335k 468o 1 1 3cgq 468p 1 1 iua 468q 1 1 iuj 468r 1 1 b8j 468s 1",
   "1 ivu 468t 1 1 ix9 468u 1 1 ixj 468v 1 1 iyh 468w 1 1 j29 468x 1 1 bay 468y 1 1 ba4 468z 1 1",
   "j2s 4690 1 1 30t0 4691 1 1 j47 4692 1 1 j7s 4693 1 1 j7w 4694 1 1 j7y 4695 1 1 j7w 4696 1 1",
   "j96 4697 1 1 j9q 4698 1 1 jaq 4699 1 1 jac 469a 1 1 jan 469b 1 1 jby 469c 1 1 jci 469d 1 1",
   "jcm 469e 1 1 jdc 469f 1 1 jdn 469g 1 1 jfh 469h 1 1 jht 469i 1 1 jis 469j 1 1 jm8 469k 1 1",
   "31n0 469l 1 1 jlp 469m 1 1 jjw 469n 1 1 jmw 469o 1 1 jnn 469p 1 1 jqc 469q 1 1 31td 469r 1 1",
   "js2 469s 1 1 jph 469t 1 1 jop 469u 1 1 bhq 469v 1 1 ju1 469w 1 1 jum 469x 1 1 jvh 469y 1 1",
   "juf 469z 1 1 bjg 46a0 1 1 k0f 46a1 1 1 k18 46a2 1 1 32mi 46a3 1 1 k4j 46a4 1 1 kc8 46a5 1 1",
   "k7d 46a6 1 1 bo9 46a7 1 1 k9d 46a8 1 1 bns 46a9 1 1 bms 46aa 1 1 g42 46ab 1 1 g45 46ac 1 1",
   "kcg 46ad 1 1 k9o 46ae 1 1 pf1 46af 1 1 deh 46ag 1 1 kd3 46ah 1 1 kd7 46ai 1 1 kdd 46aj 1 1",
   "kf2 46ak 1 1 ker 46al 1 1 33cz 46am 1 1 bpl 46an 1 1 kje 46ao 1 1 kg5 46ap 1 1 klu 46aq 1 1",
   "kn9 46ar 1 1 33hp 46as 1 1 kni 46at 1 1 kkf 46au 1 1 kr8 46av 1 1 brx 46aw 1 1 ksi 46ax 1 1",
   "kv7 46ay 1 1 kx6 46az 1 1 l2g 46b0 1 1 33xf 46b1 1 1 l3v 46b2 1 1 bvc 46b3 1 1 l5t 46b4 1 1",
   "34br 46b5 1 1 l78 46b6 1 1 bwu 46b7 1 1 l82 46b8 1 1 l9b 46b9 2 1 la2 46bb 1 1 34p9 46bc 1 1",
   "2yvf 46bd 1 1 34sa 46be 1 1 le6 46bf 1 1 354s 46bg 1 1 lhb 46bh 1 1 lhp 46bi 1 1 lev 46bj 1",
   "1 ljq 46bk 1 1 lku 46bl 1 1 lmf 46bm 1 1 lkx 46bn 1 1 lm1 46bo 1 1 lmg 46bp 1 1 lmt 46bq 1 1",
   "357i 46br 1 1 lkk 46bs 1 1 lrj 46bt 1 1 lta 46bu 1 1 c37 46bv 1 1 lvv 46bw 1 1 lvr 46bx 1 1",
   "35jl 46by 1 1 lq1 46bz 1 1 m0e 46c0 1 1 35ni 46c1 1 1 35ou 46c2 1 1 m2u 46c3 1 1 m61 46c4 1",
   "1 m5a 46c5 1 1 m57 46c6 1 1 c5y 46c7 1 1 m6i 46c8 1 1 m7x 46c9 1 1 m7r 46ca 1 1 m99 46cb 1 1",
   "2u5h 46cc 1 1 mdh 46cd 1 1 368z 46ce 1 1 mfw 46cf 1 1 36i3 46cg 1 1 mjs 46ch 1 1 mk5 46ci 1",
   "1 mkw 46cj 1 1 36yw 46ck 1 1 mm8 46cl 1 1 mmt 46cm 1 1 3779 46cn 1 1 37dg 46co 1 1 mt6 46cp",
   "1 1 mtn 46cq 1 1 cdo 46cr 1 1 mud 46cs 1 1 ce0 46ct 1 1 ce0 46cu 1 1 myv 46cv 1 1 mzg 46cw 1",
   "1 n01 46cx 1 1 n0l 46cy 1 1 n2i 46cz 1 1 cgr 46d0 1 1 n50 46d1 1 1 386u 46d2 1 1 n5q 46d3 1",
   "1 389e 46d4 1 1 n74 46d5 1 1 2zrz 46d6 1 1 nbk 46d7 1 1 38v5 46d8 1 1 38vs 46d9 1 1 38zo",
   "46da 1 1 cn0 46db 1 1 cnc 46dc 1 1 nhw 46dd 1 1 394j 46de 1 1 394i 46df 1 1 395l 46dg 1 1",
   "396b 46dh 2 1 nj2 46dj 1 1 nj3 46dk 1 1 nka 46dl 1 1 cop 46dm 1 1 nm3 46dn 1 1 cp2 46do 1 1",
   "cra 46dp 1 1 39r1 46dq 1 1 nri 46dr 1 1 nt8 46ds 1 1 nv0 46dt 1 1 ctf 46du 1 1 3a5i 46dv 1 1",
   "nyu 46dw 1 1 3a8q 46dx 1 1 3a9x 46dy 1 1 o0f 46dz 1 1 o2z 46e0 1 1 cvj 46e1 1 1 o5c 46e2 1 1",
   "o5m 46e3 1 1 o5r 46e4 1 1 3at8 46e5 1 1 3b1j 46e6 1 1 3b1j 46e7 1 1 oa6 46e8 1 1 d1e 46e9 1",
   "1 3b8r 46ea 1 1 og6 46eb 1 1 og9 46ec 1 1 d2f 46ed 1 1 3beo 46ee 1 1 onm 46ef 1 1 d5s 46eg 1",
   "1 oo8 46eh 1 1 oo3 46ei 1 1 oow 46ej 1 1 3c06 46ek 1 1 orn 46el 1 1 d8h 46em 1 1 ouf 46en 1",
   "1 ow2 46eo 1 1 oxx 46ep 1 1 d9w 46eq 1 1 3ciw 46er 1 1 3cjr 46es 1 1 dax 46et 1 1 3cnt 46eu",
   "1 1 p6i 46ev 1 1 3cqm 46ew 1 1 p79 46ex 1 1 pa2 46ey 1 1 pad 46ez 1 1 3d22 46f0 1 1 3d43",
   "46f1 1 1 pcw 46f2 1 1 3d7s 46f3 1 1 pdc 46f4 1 1 33a7 46f5 1 1 ded 46f6 1 1 pf6 46f7 1 1 phf",
   "46f8 1 1 dfv 46f9 1 1 pj2 46fa 1 1 hx1 46fb 1 1 3dlz 46fc 1 1 3dmd 46fd 1 1 33bn 46fe 1 1",
   "33bw 46ff 1 1 poh 46fg 1 1 pok 46fh 1 1 sda 46fi 1 1 dij 46fj 1 1 psh 46fk 1 1 psb 46fl 1 1",
   "pst 46fm 1 1 gc3 46fn 1 1 ptd 46fo 1 1 ptf 46fp 1 1 ptp 46fq 1 1 puu 46fr 1 1 3ebg 46fs 1 1",
   "put 46ft 1 1 pwd 46fu 1 1 pyb 46fv 1 1 q0d 46fw 1 1 pwj 46fx 1 1 q0t 46fy 1 1 q1z 46fz 1 1",
   "q53 46g0 1 1 pxv 46g1 1 1 q16 46g2 1 1 q18 46g3 1 1 q1o 46g4 1 1 3eie 46g5 1 1 3eqz 46g6 1 1",
   "3emt 46g7 1 1 dnv 46g8 1 1 q9d 46g9 1 1 q9f 46ga 1 1 qae 46gb 1 1 3g0a 46gc 1 1 qck 46gd 1 1",
   "3f3g 46ge 1 1 dp9 46gf 1 1 dpd 46gg 1 1 3f75 46gh 1 1 3ff6 46gi 1 1 dpn 46gj 1 1 qj4 46gk 1",
   "1 qjg 46gl 1 1 qjr 46gm 1 1 qjt 46gn 1 1 qll 46go 1 1 qko 46gp 1 1 qoe 46gq 1 1 qn6 46gr 1 1",
   "qrd 46gs 1 1 qp4 46gt 1 1 qqz 46gu 1 1 qrq 46gv 1 1 dsn 46gw 1 1 qu9 46gx 1 1 qv5 46gy 1 1",
   "dtl 46gz 1 1 qxs 46h0 1 1 qxv 46h1 1 1 3giv 46h2 1 1 r13 46h3 1 1 r1a 46h4 1 1 dv9 46h5 1 1",
   "r22 46h6 1 1 aez 46h7 1 1 3gz2 46h8 1 1 3h46 46h9 1 1 dz2 46ha 1 1 dzb 46hb 1 1 rds 46hc 1 1",
   "rfx 46hd 1 1 rka 46he 1 1 rpx 46hf 1 1 3hrc 46hg 1 1 rsb 46hh 1 1 rsx 46hi 1 1 rvf 46hj 1 1",
   "rxz 46hk 1 1 3i9b 46hl 1 1 2upw 46hm 1 1 s0b 46hn 1 1 rzw 46ho 1 1 s1c 46hp 1 1 2uvy 46hq 1",
   "1 s7o 46hr 1 1 sag 46hs 1 1 3jki 46ht 1 1 3jl9 46hu 1 1 sk4 46hv 1 1 smp 46hw 1 1 snl 46hx 1",
   "1 3ju6 46hy 1 1 snv 46hz 1 1 svs 46i0 2 1 t07 46i2 1 1 sxo 46i3 1 1 t89 46i4 1 1 t91 46i5 1",
   "1 3ksa 46i6 1 1 tjf 46i7 1 1 ej9 46i8 1 1 tkn 46i9 1 1 3l2v 46ia 1 1 eli 46ib 1 1 ts3 46ic 1",
   "1 iia 46id 1 1 tur 46ie 1 1 3ltx 46if 1 1 3lzu 46ig 1 1 epa 46ih 1 1 epi 46ii 1 1 u00 46ij 1",
   "1 3mdm 46ik 1 1 er6 46il 1 1 3mhi 46im 1 1 u17 46in 1 1 u17 46io 1 1 u21 46ip 1 1 3mpi 46iq",
   "1 1 u76 46ir 1 1 eur 46is 1 1 u95 46it 1 1 ucn 46iu 1 1 ude 46iv 1 1 uf2 46iw 1 1 ez2 46ix 1",
   "1 3nsg 46iy 1 1 umq 46iz 1 1 uv4 46j0 1 1 v0d 46j1 1 1 f66 46j2 1 1 f71 46j3 1 1 v3b 46j4 1",
   "1 3owe 46j5 1 1 f7c 46j6 1 1 3oxx 46j7 1 1 3p5a 46j8 1 1 3p8x 46j9 1 1 vcr 46ja 1 1 f9y 46jb",
   "1 1 veh 46jc 1 1 vem 46jd 1 1 vet 46je 1 1 vf3 46jf 1 1 vfa 46jg 1 1 vgb 46jh 1 1 3pxc"]

/-- Decompositions into several characters: the character, their number, then they themselves. -/
def severalGroups : List String :=
  ["5c 2 1t lc 5d 2 1t ld 5e 2 1t le 5f 2 1t lf 5g 2 1t lk 5h 2 1t lm 5j 2 1v mf 5k 2 1x lc 5l 2",
   "1x ld 5m 2 1x le 5n 2 1x lk 5o 2 21 lc 5p 2 21 ld 5q 2 21 le 5r 2 21 lk 5t 2 26 lf 5u 2 27",
   "lc 5v 2 27 ld 5w 2 27 le 5x 2 27 lf 5y 2 27 lk 61 2 2d lc 62 2 2d ld 63 2 2d le 64 2 2d lk",
   "65 2 2h ld 68 2 2p lc 69 2 2p ld 6a 2 2p le 6b 2 2p lf 6c 2 2p lk 6d 2 2p lm 6f 2 2r mf 6g 2",
   "2t lc 6h 2 2t ld 6i 2 2t le 6j 2 2t lk 6k 2 2x lc 6l 2 2x ld 6m 2 2x le 6n 2 2x lk 6p 2 32",
   "lf 6q 2 33 lc 6r 2 33 ld 6s 2 33 le 6t 2 33 lf 6u 2 33 lk 6x 2 39 lc 6y 2 39 ld 6z 2 39 le",
   "70 2 39 lk 71 2 3d ld 73 2 3d lk 74 2 1t lg 75 2 2p lg 76 2 1t li 77 2 2p li 78 2 1t mg 79 2",
   "2p mg 7a 2 1v ld 7b 2 2r ld 7c 2 1v le 7d 2 2r le 7e 2 1v lj 7f 2 2r lj 7g 2 1v lo 7h 2 2r",
   "lo 7i 2 1w lo 7j 2 2s lo 7m 2 1x lg 7n 2 2t lg 7o 2 1x li 7p 2 2t li 7q 2 1x lj 7r 2 2t lj",
   "7s 2 1x mg 7t 2 2t mg 7u 2 1x lo 7v 2 2t lo 7w 2 1z le 7x 2 2v le 7y 2 1z li 7z 2 2v li 80 2",
   "1z lj 81 2 2v lj 82 2 1z mf 83 2 2v mf 84 2 20 le 85 2 2w le 88 2 21 lf 89 2 2x lf 8a 2 21",
   "lg 8b 2 2x lg 8c 2 21 li 8d 2 2x li 8e 2 21 mg 8f 2 2x mg 8g 2 21 lj 8i 2 21 22 8j 2 2x 2y",
   "8k 2 22 le 8l 2 2y le 8m 2 23 mf 8n 2 2z mf 8p 2 24 ld 8q 2 30 ld 8r 2 24 mf 8s 2 30 mf 8t 2",
   "24 lo 8u 2 30 lo 8v 2 24 53 8w 2 30 53 8z 2 26 ld 90 2 32 ld 91 2 26 mf 92 2 32 mf 93 2 26",
   "lo 94 2 32 lo 95 2 jg 32 98 2 27 lg 99 2 33 lg 9a 2 27 li 9b 2 33 li 9c 2 27 ln 9d 2 33 ln",
   "9g 2 2a ld 9h 2 36 ld 9i 2 2a mf 9j 2 36 mf 9k 2 2a lo 9l 2 36 lo 9m 2 2b ld 9n 2 37 ld 9o 2",
   "2b le 9p 2 37 le 9q 2 2b mf 9r 2 37 mf 9s 2 2b lo 9t 2 37 lo 9u 2 2c mf 9v 2 38 mf 9w 2 2c",
   "lo 9x 2 38 lo a0 2 2d lf a1 2 39 lf a2 2 2d lg a3 2 39 lg a4 2 2d li a5 2 39 li a6 2 2d lm",
   "a7 2 39 lm a8 2 2d ln a9 2 39 ln aa 2 2d mg ab 2 39 mg ac 2 2f le ad 2 3b le ae 2 2h le af 2",
   "3d le ag 2 2h lk ah 2 2i ld ai 2 3e ld aj 2 2i lj ak 2 3e lj al 2 2i lo am 2 3e lo bk 2 27",
   "m3 bl 2 33 m3 bz 2 2d m3 c0 2 39 m3 ck 3 1w 2i lo cl 3 1w 3e lo cm 3 2s 3e lo cn 2 24 22 co",
   "2 24 2y cp 2 30 2y cq 2 26 22 cr 2 26 2y cs 2 32 2y ct 2 1t lo cu 2 2p lo cv 2 21 lo cw 2 2x",
   "lo cx 2 27 lo cy 2 33 lo cz 2 2d lo d0 2 39 lo d1 3 2d lk lg d2 3 39 lk lg d3 3 2d lk ld d4",
   "3 39 lk ld d5 3 2d lk lo d6 3 39 lk lo d7 3 2d lk lc d8 3 39 lk lc da 3 1t lk lg db 3 2p lk",
   "lg dc 3 1t lj lg dd 3 2p lj lg de 2 5i lg df 2 6e lg di 2 1z lo dj 2 2v lo dk 2 23 lo dl 2",
   "2z lo dm 2 27 mg dn 2 33 mg do 3 27 mg lg dp 3 33 mg lg dq 2 c7 lo dr 2 ia lo ds 2 2y lo dt",
   "2 1w 2i du 2 1w 3e dv 2 2s 3e dw 2 1z ld dx 2 2v ld e0 2 26 lc e1 2 32 lc e2 3 1t lm ld e3 3",
   "2p lm ld e4 2 5i ld e5 2 6e ld e6 2 60 ld e7 2 6w ld e8 2 1t lr e9 2 2p lr ea 2 1t lt eb 2",
   "2p lt ec 2 1x lr ed 2 2t lr ee 2 1x lt ef 2 2t lt eg 2 21 lr eh 2 2x lr ei 2 21 lt ej 2 2x",
   "lt ek 2 27 lr el 2 33 lr em 2 27 lt en 2 33 lt eo 2 2a lr ep 2 36 lr eq 2 2a lt er 2 36 lt",
   "es 2 2d lr et 2 39 lr eu 2 2d lt ev 2 39 lt ew 2 2b me ex 2 37 me ey 2 2c me ez 2 38 me f2 2",
   "20 lo f3 2 2w lo fa 2 1t lj fb 2 2p lj fc 2 1x mf fd 2 2t mf fe 3 27 lk lg ff 3 33 lk lg fg",
   "3 27 lf lg fh 3 33 lf lg fi 2 27 lj fj 2 33 lj fk 3 27 lj lg fl 3 33 lj lg fm 2 2h lg fn 2",
   "3d lg n8 2 lk ld p2 2 pd ld p4 2 ph ld p5 2 pj ld p6 2 pl ld p8 2 pr ld pa 2 px ld pb 2 q1",
   "ld pc 3 qh lk ld q2 2 pl lk q3 2 px lk q4 2 q9 ld q5 2 qd ld q6 2 qf ld q7 2 qh ld q8 3 qt",
   "lk ld qy 2 qh lk qz 2 qt lk r0 2 qn ld r1 2 qt ld r2 2 qx ld r7 2 px ld r8 2 px lk sg 2 t1",
   "lc sh 2 t1 lk sj 2 sz ld sn 2 sm lk ss 2 t6 ld st 2 t4 lc su 2 tf li t5 2 t4 li u1 2 u0 li",
   "uo 2 tx lc up 2 tx lk ur 2 tv ld uv 2 uu lk v0 2 u2 ld v1 2 u0 lc v2 2 ub li vq 2 vo lr vr 2",
   "vp lr xt 2 t2 li xu 2 ty li y8 2 sw li y9 2 ts li ya 2 sw lk yb 2 ts lk ye 2 t1 li yf 2 tx",
   "li yi 2 yg lk yj 2 yh lk yk 2 t2 lk yl 2 ty lk ym 2 t3 lk yn 2 tz lk yq 2 t4 lg yr 2 u0 lg",
   "ys 2 t4 lk yt 2 u0 lk yu 2 ta lk yv 2 u6 lk yy 2 yw lk yz 2 yx lk z0 2 tp lk z1 2 ul lk z2 2",
   "tf lg z3 2 ub lg z4 2 tf lk z5 2 ub lk z6 2 tf ln z7 2 ub ln z8 2 tj lk z9 2 uf lk zc 2 tn",
   "lk zd 2 uj lk 13b 2 12d 136 17m 2 17r 18z 17n 2 17r 190 17o 2 18o 190 17p 2 17r 191 17q 2",
   "18q 190 19x 2 17r 19w 19y 2 18o 19w 19z 2 1c7 19w 1a0 2 18q 19w 1c0 2 1cl 190 1c2 2 1c1 190",
   "1cj 2 1ci 190 1t5 2 1t4 1to 1td 2 1tc 1to 1tg 2 1tf 1to 1ug 2 1sl 1to 1uh 2 1sm 1to 1ui 2",
   "1sn 1to 1uj 2 1ss 1to 1uk 2 1sx 1to 1ul 2 1sy 1to 1um 2 1t7 1to 1un 2 1tb 1to 1xn 2 1xj 1xa",
   "1xo 2 1xj 1xz 1y4 2 1wh 1x8 1y5 2 1wi 1x8 1y7 2 1wv 1x8 20j 2 20i 20s 20m 2 20o 20s 21l 2",
   "1zq 20s 21m 2 1zr 20s 21n 2 1zw 20s 21q 2 20b 20s 288 2 287 28m 28b 2 287 27y 28c 2 287 28n",
   "28s 2 275 27w 28t 2 276 27w 2ac 2 2aa 2c7 2bu 2 2bq 2bi 2bv 2 2br 2bi 2bw 2 2bq 2c7 2fc 2",
   "2fa 2fq 2io 2 2in 2j9 2iv 2 2iu 2j9 2iw 2 2iu 2ja 2iy 2 2iu 2iq 2iz 3 2iu 2iq 2j9 2mi 2 2me",
   "2m6 2mj 2 2mf 2m6 2mk 2 2me 2mv 2qi 2 2qh 2q2 2qk 2 2qh 2q7 2ql 3 2qh 2q7 2q2 2qm 2 2qh 2qn",
   "2sz 2 2tp 2sy 2wj 2 2x9 2wi 2xo 2 2wb 2vt 2xp 2 2wb 2w1 30j 2 30i 33r 30t 2 30s 33r 30y 2",
   "30x 33r 313 2 312 33r 318 2 317 33r 31l 2 30g 33p 31v 2 31t 31u 31x 2 31t 31w 31y 2 33m 328",
   "31z 3 33m 31t 328 320 2 33n 328 321 3 33n 31t 328 329 2 31t 328 32r 2 32q 33r 331 2 330 33r",
   "336 2 335 33r 33b 2 33a 33r 33g 2 33f 33r 33t 2 32o 33p 36u 2 36t 372 5c6 2 5c5 5dh 5c8 2",
   "5c7 5dh 5ca 2 5c9 5dh 5cc 2 5cb 5dh 5ce 2 5cd 5dh 5ci 2 5ch 5dh 5dn 2 5dm 5dh 5dp 2 5do 5dh",
   "5ds 2 5dq 5dh 5dt 2 5dr 5dh 5dv 2 5du 5dh 5xc 2 1t md 5xd 2 2p md 5xe 2 1u lj 5xf 2 2q lj",
   "5xg 2 1u mb 5xh 2 2q mb 5xi 2 1u mp 5xj 2 2q mp 5xk 3 1v mf ld 5xl 3 2r mf ld 5xm 2 1w lj",
   "5xn 2 2s lj 5xo 2 1w mb 5xp 2 2s mb 5xq 2 1w mp 5xr 2 2s mp 5xs 2 1w mf 5xt 2 2s mf 5xu 2 1w",
   "ml 5xv 2 2s ml 5xw 3 1x lg lc 5xx 3 2t lg lc 5xy 3 1x lg ld 5xz 3 2t lg ld 5y0 2 1x ml 5y1 2",
   "2t ml 5y2 2 1x mo 5y3 2 2t mo 5y4 3 1x mf li 5y5 3 2t mf li 5y6 2 1y lj 5y7 2 2u lj 5y8 2 1z",
   "lg 5y9 2 2v lg 5ya 2 20 lj 5yb 2 2w lj 5yc 2 20 mb 5yd 2 2w mb 5ye 2 20 lk 5yf 2 2w lk 5yg 2",
   "20 mf 5yh 2 2w mf 5yi 2 20 mm 5yj 2 2w mm 5yk 2 21 mo 5yl 2 2x mo 5ym 3 21 lk ld 5yn 3 2x lk",
   "ld 5yo 2 23 ld 5yp 2 2z ld 5yq 2 23 mb 5yr 2 2z mb 5ys 2 23 mp 5yt 2 2z mp 5yu 2 24 mb 5yv 2",
   "30 mb 5yw 3 24 mb lg 5yx 3 30 mb lg 5yy 2 24 mp 5yz 2 30 mp 5z0 2 24 ml 5z1 2 30 ml 5z2 2 25",
   "ld 5z3 2 31 ld 5z4 2 25 lj 5z5 2 31 lj 5z6 2 25 mb 5z7 2 31 mb 5z8 2 26 lj 5z9 2 32 lj 5za 2",
   "26 mb 5zb 2 32 mb 5zc 2 26 mp 5zd 2 32 mp 5ze 2 26 ml 5zf 2 32 ml 5zg 3 27 lf ld 5zh 3 33 lf",
   "ld 5zi 3 27 lf lk 5zj 3 33 lf lk 5zk 3 27 lg lc 5zl 3 33 lg lc 5zm 3 27 lg ld 5zn 3 33 lg ld",
   "5zo 2 28 ld 5zp 2 34 ld 5zq 2 28 lj 5zr 2 34 lj 5zs 2 2a lj 5zt 2 36 lj 5zu 2 2a mb 5zv 2 36",
   "mb 5zw 3 2a mb lg 5zx 3 36 mb lg 5zy 2 2a mp 5zz 2 36 mp 600 2 2b lj 601 2 37 lj 602 2 2b mb",
   "603 2 37 mb 604 3 2b ld lj 605 3 37 ld lj 606 3 2b lo lj 607 3 37 lo lj 608 3 2b mb lj 609 3",
   "37 mb lj 60a 2 2c lj 60b 2 38 lj 60c 2 2c mb 60d 2 38 mb 60e 2 2c mp 60f 2 38 mp 60g 2 2c ml",
   "60h 2 38 ml 60i 2 2d mc 60j 2 39 mc 60k 2 2d mo 60l 2 39 mo 60m 2 2d ml 60n 2 39 ml 60o 3 2d",
   "lf ld 60p 3 39 lf ld 60q 3 2d lg lk 60r 3 39 lg lk 60s 2 2e lf 60t 2 3a lf 60u 2 2e mb 60v 2",
   "3a mb 60w 2 2f lc 60x 2 3b lc 60y 2 2f ld 60z 2 3b ld 610 2 2f lk 611 2 3b lk 612 2 2f lj",
   "613 2 3b lj 614 2 2f mb 615 2 3b mb 616 2 2g lj 617 2 3c lj 618 2 2g lk 619 2 3c lk 61a 2 2h",
   "lj 61b 2 3d lj 61c 2 2i le 61d 2 3e le 61e 2 2i mb 61f 2 3e mb 61g 2 2i mp 61h 2 3e mp 61i 2",
   "2w mp 61j 2 38 lk 61k 2 3b lm 61l 2 3d lm 61m 2 2p ji 61n 2 37 lj 61s 2 1t mb 61t 2 2p mb",
   "61u 2 1t ll 61v 2 2p ll 61w 3 1t le ld 61x 3 2p le ld 61y 3 1t le lc 61z 3 2p le lc 620 3 1t",
   "le ll 621 3 2p le ll 622 3 1t le lf 623 3 2p le lf 624 3 1t mb le 625 3 2p mb le 626 3 1t li",
   "ld 627 3 2p li ld 628 3 1t li lc 629 3 2p li lc 62a 3 1t li ll 62b 3 2p li ll 62c 3 1t li lf",
   "62d 3 2p li lf 62e 3 1t mb li 62f 3 2p mb li 62g 2 1x mb 62h 2 2t mb 62i 2 1x ll 62j 2 2t ll",
   "62k 2 1x lf 62l 2 2t lf 62m 3 1x le ld 62n 3 2t le ld 62o 3 1x le lc 62p 3 2t le lc 62q 3 1x",
   "le ll 62r 3 2t le ll 62s 3 1x le lf 62t 3 2t le lf 62u 3 1x mb le 62v 3 2t mb le 62w 2 21 ll",
   "62x 2 2x ll 62y 2 21 mb 62z 2 2x mb 630 2 27 mb 631 2 33 mb 632 2 27 ll 633 2 33 ll 634 3 27",
   "le ld 635 3 33 le ld 636 3 27 le lc 637 3 33 le lc 638 3 27 le ll 639 3 33 le ll 63a 3 27 le",
   "lf 63b 3 33 le lf 63c 3 27 mb le 63d 3 33 mb le 63e 3 27 m3 ld 63f 3 33 m3 ld 63g 3 27 m3 lc",
   "63h 3 33 m3 lc 63i 3 27 m3 ll 63j 3 33 m3 ll 63k 3 27 m3 lf 63l 3 33 m3 lf 63m 3 27 m3 mb",
   "63n 3 33 m3 mb 63o 2 2d mb 63p 2 39 mb 63q 2 2d ll 63r 2 39 ll 63s 3 2d m3 ld 63t 3 39 m3 ld",
   "63u 3 2d m3 lc 63v 3 39 m3 lc 63w 3 2d m3 ll 63x 3 39 m3 ll 63y 3 2d m3 lf 63z 3 39 m3 lf",
   "640 3 2d m3 mb 641 3 39 m3 mb 642 2 2h lc 643 2 3d lc 644 2 2h mb 645 2 3d mb 646 2 2h ll",
   "647 2 3d ll 648 2 2h lf 649 2 3d lf 64g 2 q9 lv 64h 2 q9 lw 64i 3 q9 lv lc 64j 3 q9 lw lc",
   "64k 3 q9 lv ld 64l 3 q9 lw ld 64m 3 q9 lv n6 64n 3 q9 lw n6 64o 2 pd lv 64p 2 pd lw 64q 3 pd",
   "lv lc 64r 3 pd lw lc 64s 3 pd lv ld 64t 3 pd lw ld 64u 3 pd lv n6 64v 3 pd lw n6 64w 2 qd lv",
   "64x 2 qd lw 64y 3 qd lv lc 64z 3 qd lw lc 650 3 qd lv ld 651 3 qd lw ld 654 2 ph lv 655 2 ph",
   "lw 656 3 ph lv lc 657 3 ph lw lc 658 3 ph lv ld 659 3 ph lw ld 65c 2 qf lv 65d 2 qf lw 65e 3",
   "qf lv lc 65f 3 qf lw lc 65g 3 qf lv ld 65h 3 qf lw ld 65i 3 qf lv n6 65j 3 qf lw n6 65k 2 pj",
   "lv 65l 2 pj lw 65m 3 pj lv lc 65n 3 pj lw lc 65o 3 pj lv ld 65p 3 pj lw ld 65q 3 pj lv n6",
   "65r 3 pj lw n6 65s 2 qh lv 65t 2 qh lw 65u 3 qh lv lc 65v 3 qh lw lc 65w 3 qh lv ld 65x 3 qh",
   "lw ld 65y 3 qh lv n6 65z 3 qh lw n6 660 2 pl lv 661 2 pl lw 662 3 pl lv lc 663 3 pl lw lc",
   "664 3 pl lv ld 665 3 pl lw ld 666 3 pl lv n6 667 3 pl lw n6 668 2 qn lv 669 2 qn lw 66a 3 qn",
   "lv lc 66b 3 qn lw lc 66c 3 qn lv ld 66d 3 qn lw ld 66g 2 pr lv 66h 2 pr lw 66i 3 pr lv lc",
   "66j 3 pr lw lc 66k 3 pr lv ld 66l 3 pr lw ld 66o 2 qt lv 66p 2 qt lw 66q 3 qt lv lc 66r 3 qt",
   "lw lc 66s 3 qt lv ld 66t 3 qt lw ld 66u 3 qt lv n6 66v 3 qt lw n6 66x 2 px lw 66z 3 px lw lc",
   "671 3 px lw ld 673 3 px lw n6 674 2 qx lv 675 2 qx lw 676 3 qx lv lc 677 3 qx lw lc 678 3 qx",
   "lv ld 679 3 qx lw ld 67a 3 qx lv n6 67b 3 qx lw n6 67c 2 q1 lv 67d 2 q1 lw 67e 3 q1 lv lc",
   "67f 3 q1 lw lc 67g 3 q1 lv ld 67h 3 q1 lw ld 67i 3 q1 lv n6 67j 3 q1 lw n6 67k 2 q9 lc 67l 2",
   "q9 ld 67m 2 qd lc 67n 2 qd ld 67o 2 qf lc 67p 2 qf ld 67q 2 qh lc 67r 2 qh ld 67s 2 qn lc",
   "67t 2 qn ld 67u 2 qt lc 67v 2 qt ld 67w 2 qx lc 67x 2 qx ld 680 3 q9 lv n9 681 3 q9 lw n9",
   "682 4 q9 lv lc n9 683 4 q9 lw lc n9 684 4 q9 lv ld n9 685 4 q9 lw ld n9 686 4 q9 lv n6 n9",
   "687 4 q9 lw n6 n9 688 3 pd lv n9 689 3 pd lw n9 68a 4 pd lv lc n9 68b 4 pd lw lc n9 68c 4 pd",
   "lv ld n9 68d 4 pd lw ld n9 68e 4 pd lv n6 n9 68f 4 pd lw n6 n9 68g 3 qf lv n9 68h 3 qf lw n9",
   "68i 4 qf lv lc n9 68j 4 qf lw lc n9 68k 4 qf lv ld n9 68l 4 qf lw ld n9 68m 4 qf lv n6 n9",
   "68n 4 qf lw n6 n9 68o 3 pj lv n9 68p 3 pj lw n9 68q 4 pj lv lc n9 68r 4 pj lw lc n9 68s 4 pj",
   "lv ld n9 68t 4 pj lw ld n9 68u 4 pj lv n6 n9 68v 4 pj lw n6 n9 68w 3 qx lv n9 68x 3 qx lw n9",
   "68y 4 qx lv lc n9 68z 4 qx lw lc n9 690 4 qx lv ld n9 691 4 qx lw ld n9 692 4 qx lv n6 n9",
   "693 4 qx lw n6 n9 694 3 q1 lv n9 695 3 q1 lw n9 696 4 q1 lv lc n9 697 4 q1 lw lc n9 698 4 q1",
   "lv ld n9 699 4 q1 lw ld n9 69a 4 q1 lv n6 n9 69b 4 q1 lw n6 n9 69c 2 q9 li 69d 2 q9 lg 69e 3",
   "q9 lc n9 69f 2 q9 n9 69g 3 q9 ld n9 69i 2 q9 n6 69j 3 q9 n6 n9 69k 2 pd li 69l 2 pd lg 69m 2",
   "pd lc 69n 2 pd ld 69o 2 pd n9 69u 3 qf lc n9 69v 2 qf n9 69w 3 qf ld n9 69y 2 qf n6 69z 3 qf",
   "n6 n9 6a0 2 ph lc 6a1 2 ph ld 6a2 2 pj lc 6a3 2 pj ld 6a4 2 pj n9 6a8 2 qh li 6a9 2 qh lg",
   "6aa 3 qh lk lc 6ab 3 qh lk ld 6ae 2 qh n6 6af 3 qh lk n6 6ag 2 pl li 6ah 2 pl lg 6ai 2 pl lc",
   "6aj 2 pl ld 6ao 2 qt li 6ap 2 qt lg 6aq 3 qt lk lc 6ar 3 qt lk ld 6as 2 qp lv 6at 2 qp lw",
   "6au 2 qt n6 6av 3 qt lk n6 6aw 2 px li 6ax 2 px lg 6ay 2 px lc 6az 2 px ld 6b0 2 pt lw 6b6 3",
   "qx lc n9 6b7 2 qx n9 6b8 3 qx ld n9 6ba 2 qx n6 6bb 3 qx n6 n9 6bc 2 pr lc 6bd 2 pr ld 6be 2",
   "q1 lc 6bf 2 q1 ld 6bg 2 q1 n9 6jv 2 1t lm 6ld 2 21 21 6le 3 21 21 21 6lf 2 21 2e 6lh 2 2e 21",
   "6li 3 2e 21 21 6lj 4 2e 21 21 21 6lk 2 21 2g 6lm 2 2g 21 6ln 3 2g 21 21 6lt 2 2x 2x 6lu 3 2x",
   "2x 2x 6lv 2 2x 3a 6lx 2 3a 2x 6ly 3 3a 2x 2x 6lz 4 3a 2x 2x 2x 6m0 2 2x 3c 6m2 2 3c 2x 6m3 3",
   "3c 2x 2x 9jg 2 9jf 9ll 9ji 2 9jh 9ll 9jk 2 9jj 9ll 9jm 2 9jl 9ll 9jo 2 9jn 9ll 9jq 2 9jp 9ll",
   "9js 2 9jr 9ll 9ju 2 9jt 9ll 9jw 2 9jv 9ll 9jy 2 9jx 9ll 9k0 2 9jz 9ll 9k2 2 9k1 9ll 9k5 2",
   "9k4 9ll 9k7 2 9k6 9ll 9k9 2 9k8 9ll 9kg 2 9kf 9ll 9kh 2 9kf 9lm 9kj 2 9ki 9ll 9kk 2 9ki 9lm",
   "9km 2 9kl 9ll 9kn 2 9kl 9lm 9kp 2 9ko 9ll 9kq 2 9ko 9lm 9ks 2 9kr 9ll 9kt 2 9kr 9lm 9lg 2",
   "9ja 9ll 9lq 2 9lp 9ll 9lr 2 9l4 9l6 9m4 2 9m3 9ll 9m6 2 9m5 9ll 9m8 2 9m7 9ll 9ma 2 9m9 9ll",
   "9mc 2 9mb 9ll 9me 2 9md 9ll 9mg 2 9mf 9ll 9mi 2 9mh 9ll 9mk 2 9mj 9ll 9mm 2 9ml 9ll 9mo 2",
   "9mn 9ll 9mq 2 9mp 9ll 9mt 2 9ms 9ll 9mv 2 9mu 9ll 9mx 2 9mw 9ll 9n4 2 9n3 9ll 9n5 2 9n3 9lm",
   "9n7 2 9n6 9ll 9n8 2 9n6 9lm 9na 2 9n9 9ll 9nb 2 9n9 9lm 9nd 2 9nc 9ll 9ne 2 9nc 9lm 9ng 2",
   "9nf 9ll 9nh 2 9nf 9lm 9o4 2 9ly 9ll 9o7 2 9nz 9ll 9o8 2 9o0 9ll 9o9 2 9o1 9ll 9oa 2 9o2 9ll",
   "9oe 2 9od 9ll 9of 2 9mb 9mw 1dkw 2 2u 2u 1dkx 2 2u 2x 1dky 2 2u 30 1dkz 3 2u 2u 2x 1dl0 3 2u",
   "2u 30 1dl1 2 37 38 1dl2 2 37 38 1dlf 2 12s 12u 1dlg 2 12s 12d 1dlh 2 12s 12j 1dli 2 132 12u",
   "1dlj 2 12s 12l 1dlp 2 15l 14k 1dlr 2 16a 14n 1dm2 2 161 14x 1dm3 2 161 14y 1dm4 3 161 14s",
   "14x 1dm5 3 161 14s 14y 1dm6 2 15c 14n 1dm7 2 15c 14o 1dm8 2 15c 14s 1dm9 2 15d 14s 1dma 2",
   "15e 14s 1dmb 2 15f 14s 1dmc 2 15g 14s 1dmd 2 15h 14s 1dme 2 15i 14s 1dmg 2 15k 14s 1dmh 2",
   "15l 14s 1dmi 2 15m 14s 1dmj 2 15n 14s 1dmk 2 15o 14s 1dmm 2 15q 14s 1dmo 2 15s 14s 1dmp 2",
   "15t 14s 1dmr 2 15v 14s 1dms 2 15w 14s 1dmu 2 15y 14s 1dmv 2 15z 14s 1dmw 2 160 14s 1dmx 2",
   "161 14s 1dmy 2 162 14s 1dmz 2 15h 14p 1dn0 2 15d 14v 1dn1 2 15n 14v 1dn2 2 15w 14v 1dn3 2",
   "15c 15o 1dpg 2 1cl 190 1dph 2 1cl 190 1dps 2 1ci 190 1dpt 2 1ci 190 1dr1 2 1c7 19w 1dre 3",
   "18q 190 17r 1drf 3 18q 190 17r 1drg 3 18q 190 1cl 1drh 3 18q 190 1cl 1dri 3 18q 190 18o 1drj",
   "3 18q 190 18o 1drk 3 18q 190 1c7 1drl 3 18q 190 1c7 1drm 3 18q 190 1c6 1drn 3 18q 190 1c6",
   "1dro 3 18q 190 1c8 1drp 3 18q 190 1c8 1drq 3 18q 190 1cg 1drr 3 18q 190 1cg 1drs 3 18q 190",
   "1cg 1drt 3 18q 190 18p 1dru 3 18q 190 18p 1drv 3 18q 190 18p 1ds0 3 18q 190 17w 1ds1 3 18q",
   "190 17x 1ds2 3 18q 190 18l 1ds3 3 18q 190 18p 1ds4 3 18q 190 18q 1ds5 2 17s 17w 1ds6 2 17s",
   "17x 1ds7 2 17s 17y 1ds8 2 17s 18l 1ds9 2 17s 18p 1dsa 2 17s 18q 1dsb 2 17u 17w 1dsc 2 17u",
   "17x 1dsd 2 17u 17y 1dse 2 17u 18l 1dsf 2 17u 18p 1dsg 2 17u 18q 1dsh 2 17v 17w 1dsi 2 17v",
   "18l 1dsj 2 17v 18p 1dsk 2 17v 18q 1dsl 2 17w 17x 1dsm 2 17w 18l 1dsn 2 17x 17w 1dso 2 17x",
   "18l 1dsp 2 17y 17w 1dsq 2 17y 17x 1dsr 2 17y 18l 1dss 2 183 17w 1dst 2 183 17x 1dsu 2 183",
   "17y 1dsv 2 183 18l 1dsw 2 185 17x 1dsx 2 185 18l 1dsy 2 186 17w 1dsz 2 186 17x 1dt0 2 186",
   "17y 1dt1 2 186 18l 1dt2 2 187 17x 1dt3 2 187 18l 1dt4 2 188 18l 1dt5 2 189 17w 1dt6 2 189",
   "18l 1dt7 2 18a 17w 1dt8 2 18a 18l 1dt9 2 18h 17w 1dta 2 18h 17x 1dtb 2 18h 17y 1dtc 2 18h",
   "18l 1dtd 2 18h 18p 1dte 2 18h 18q 1dtf 2 18i 17x 1dtg 2 18i 18l 1dth 2 18i 18p 1dti 2 18i",
   "18q 1dtj 2 18j 17r 1dtk 2 18j 17w 1dtl 2 18j 17x 1dtm 2 18j 17y 1dtn 2 18j 18k 1dto 2 18j",
   "18l 1dtp 2 18j 18p 1dtq 2 18j 18q 1dtr 2 18k 17w 1dts 2 18k 17x 1dtt 2 18k 17y 1dtu 2 18k",
   "18l 1dtv 2 18k 18p 1dtw 2 18k 18q 1dtx 2 18l 17w 1dty 2 18l 17x 1dtz 2 18l 17y 1du0 2 18l",
   "18l 1du1 2 18l 18p 1du2 2 18l 18q 1du3 2 18m 17w 1du4 2 18m 17x 1du5 2 18m 17y 1du6 2 18m",
   "18l 1du7 2 18m 18p 1du8 2 18m 18q 1du9 2 18n 17w 1dua 2 18n 18l 1dub 2 18n 18p 1duc 2 18n",
   "18q 1dud 2 18q 17w 1due 2 18q 17x 1duf 2 18q 17y 1dug 2 18q 18l 1duh 2 18q 18p 1dui 2 18q",
   "18q 1duj 2 180 19s 1duk 2 181 19s 1dul 2 18p 19s 1dus 3 18q 190 181 1dut 3 18q 190 182 1duu",
   "3 18q 190 18l 1duv 3 18q 190 18m 1duw 3 18q 190 18p 1dux 3 18q 190 18q 1duy 2 17s 181 1duz 2",
   "17s 182 1dv0 2 17s 18l 1dv1 2 17s 18m 1dv2 2 17s 18p 1dv3 2 17s 18q 1dv4 2 17u 181 1dv5 2",
   "17u 182 1dv6 2 17u 18l 1dv7 2 17u 18m 1dv8 2 17u 18p 1dv9 2 17u 18q 1dva 2 17v 181 1dvb 2",
   "17v 182 1dvc 2 17v 18l 1dvd 2 17v 18m 1dve 2 17v 18p 1dvf 2 17v 18q 1dvg 2 18h 18p 1dvh 2",
   "18h 18q 1dvi 2 18i 18p 1dvj 2 18i 18q 1dvk 2 18j 17r 1dvl 2 18j 18k 1dvm 2 18j 18l 1dvn 2",
   "18j 18p 1dvo 2 18j 18q 1dvp 2 18k 18l 1dvq 2 18k 18p 1dvr 2 18k 18q 1dvs 2 18l 17r 1dvt 2",
   "18l 18l 1dvu 2 18m 181 1dvv 2 18m 182 1dvw 2 18m 18l 1dvx 2 18m 18m 1dvy 2 18m 18p 1dvz 2",
   "18m 18q 1dw0 2 18p 19s 1dw1 2 18q 181 1dw2 2 18q 182 1dw3 2 18q 18l 1dw4 2 18q 18m 1dw5 2",
   "18q 18p 1dw6 2 18q 18q 1dw7 3 18q 190 17w 1dw8 3 18q 190 17x 1dw9 3 18q 190 17y 1dwa 3 18q",
   "190 18l 1dwb 3 18q 190 18n 1dwc 2 17s 17w 1dwd 2 17s 17x 1dwe 2 17s 17y 1dwf 2 17s 18l 1dwg",
   "2 17s 18n 1dwh 2 17u 17w 1dwi 2 17u 17x 1dwj 2 17u 17y 1dwk 2 17u 18l 1dwl 2 17u 18n 1dwm 2",
   "17v 18l 1dwn 2 17w 17x 1dwo 2 17w 18l 1dwp 2 17x 17w 1dwq 2 17x 18l 1dwr 2 17y 17w 1dws 2",
   "17y 18l 1dwt 2 183 17w 1dwu 2 183 17x 1dwv 2 183 17y 1dww 2 183 18l 1dwx 2 185 17x 1dwy 2",
   "185 17y 1dwz 2 185 18l 1dx0 2 186 17w 1dx1 2 186 17x 1dx2 2 186 17y 1dx3 2 186 18l 1dx4 2",
   "187 17x 1dx5 2 188 18l 1dx6 2 189 17w 1dx7 2 189 18l 1dx8 2 18a 17w 1dx9 2 18a 18l 1dxa 2",
   "18h 17w 1dxb 2 18h 17x 1dxc 2 18h 17y 1dxd 2 18h 18l 1dxe 2 18i 17x 1dxf 2 18i 18l 1dxg 2",
   "18j 17w 1dxh 2 18j 17x 1dxi 2 18j 17y 1dxj 2 18j 18k 1dxk 2 18j 18l 1dxl 2 18k 17w 1dxm 2",
   "18k 17x 1dxn 2 18k 17y 1dxo 2 18k 18l 1dxp 2 18k 18n 1dxq 2 18l 17w 1dxr 2 18l 17x 1dxs 2",
   "18l 17y 1dxt 2 18l 18l 1dxu 2 18m 17w 1dxv 2 18m 17x 1dxw 2 18m 17y 1dxx 2 18m 18l 1dxy 2",
   "18m 18n 1dxz 2 18n 17w 1dy0 2 18n 18l 1dy1 2 18n 19s 1dy2 2 18q 17w 1dy3 2 18q 17x 1dy4 2",
   "18q 17y 1dy5 2 18q 18l 1dy6 2 18q 18n 1dy7 3 18q 190 18l 1dy8 3 18q 190 18n 1dy9 2 17s 18l",
   "1dya 2 17s 18n 1dyb 2 17u 18l 1dyc 2 17u 18n 1dyd 2 17v 18l 1dye 2 17v 18n 1dyf 2 183 18l",
   "1dyg 2 183 18n 1dyh 2 184 18l 1dyi 2 184 18n 1dyj 2 18j 18k 1dyk 2 18j 18l 1dyl 2 18k 18l",
   "1dym 2 18m 18l 1dyn 2 18m 18n 1dyo 2 18q 18l 1dyp 2 18q 18n 1dyq 3 18g 18u 18x 1dyr 3 18g",
   "18v 18x 1dys 3 18g 18w 18x 1dyt 2 187 18p 1dyu 2 187 18q 1dyv 2 189 18p 1dyw 2 189 18q 1dyx",
   "2 18a 18p 1dyy 2 18a 18q 1dyz 2 183 18p 1dz0 2 183 18q 1dz1 2 184 18p 1dz2 2 184 18q 1dz3 2",
   "17x 18p 1dz4 2 17x 18q 1dz5 2 17w 18p 1dz6 2 17w 18q 1dz7 2 17y 18p 1dz8 2 17y 18q 1dz9 2",
   "185 18p 1dza 2 185 18q 1dzb 2 186 18p 1dzc 2 186 18q 1dzd 2 184 17w 1dze 2 184 17x 1dzf 2",
   "184 17y 1dzg 2 184 18l 1dzh 2 184 181 1dzi 2 183 181 1dzj 2 185 181 1dzk 2 186 181 1dzl 2",
   "187 18p 1dzm 2 187 18q 1dzn 2 189 18p 1dzo 2 189 18q 1dzp 2 18a 18p 1dzq 2 18a 18q 1dzr 2",
   "183 18p 1dzs 2 183 18q 1dzt 2 184 18p 1dzu 2 184 18q 1dzv 2 17x 18p 1dzw 2 17x 18q 1dzx 2",
   "17w 18p 1dzy 2 17w 18q 1dzz 2 17y 18p 1e00 2 17y 18q 1e01 2 185 18p 1e02 2 185 18q 1e03 2",
   "186 18p 1e04 2 186 18q 1e05 2 184 17w 1e06 2 184 17x 1e07 2 184 17y 1e08 2 184 18l 1e09 2",
   "184 181 1e0a 2 183 181 1e0b 2 185 181 1e0c 2 186 181 1e0d 2 184 17w 1e0e 2 184 17x 1e0f 2",
   "184 17y 1e0g 2 184 18l 1e0h 2 183 18n 1e0i 2 184 18n 1e0j 2 187 18l 1e0k 2 183 17w 1e0l 2",
   "183 17x 1e0m 2 183 17y 1e0n 2 184 17w 1e0o 2 184 17x 1e0p 2 184 17y 1e0q 2 187 18l 1e0r 2",
   "188 18l 1e0s 2 17r 18r 1e0t 2 17r 18r 1e1c 3 17u 17w 18l 1e1d 3 17u 17x 17w 1e1e 3 17u 17x",
   "17w 1e1f 3 17u 17x 18l 1e1g 3 17u 17y 18l 1e1h 3 17u 18l 17w 1e1i 3 17u 18l 17x 1e1j 3 17u",
   "18l 17y 1e1k 3 17w 18l 17x 1e1l 3 17w 18l 17x 1e1m 3 17x 18l 18q 1e1n 3 17x 18l 18p 1e1o 3",
   "183 17x 17w 1e1p 3 183 17w 17x 1e1q 3 183 17w 18p 1e1r 3 183 18l 17x 1e1s 3 183 18l 17x 1e1t",
   "3 183 18l 17w 1e1u 3 183 18l 18l 1e1v 3 183 18l 18l 1e1w 3 185 17x 17x 1e1x 3 185 17x 17x",
   "1e1y 3 185 18l 18l 1e1z 3 184 17x 18l 1e20 3 184 17x 18l 1e21 3 184 17w 18q 1e22 3 184 18l",
   "17y 1e23 3 184 18l 17y 1e24 3 184 18l 18l 1e25 3 184 18l 18l 1e26 3 186 17x 18p 1e27 3 186",
   "17y 18l 1e28 3 186 17y 18l 1e29 3 187 18l 17x 1e2a 3 187 18l 17x 1e2b 3 187 18l 18l 1e2c 3",
   "187 18l 18q 1e2d 3 189 17w 18l 1e2e 3 189 18l 18l 1e2f 3 189 18l 18l 1e2g 3 189 18l 18p 1e2h",
   "3 18a 18l 18l 1e2i 3 18a 18l 18q 1e2j 3 18a 18l 18p 1e2k 3 18h 17y 18l 1e2l 3 18h 17y 18l",
   "1e2m 3 18i 18l 17x 1e2n 3 18i 18l 18l 1e2o 3 18k 17x 18l 1e2p 3 18k 17x 18q 1e2q 3 18k 17x",
   "18p 1e2r 3 18k 17w 17w 1e2s 3 18k 17w 17w 1e2t 3 18k 17y 18l 1e2u 3 18k 17y 18l 1e2v 3 18k",
   "18l 17x 1e2w 3 18k 18l 17x 1e2x 3 18l 17x 17w 1e2y 3 18l 17x 18l 1e2z 3 18l 17x 18q 1e30 3",
   "18l 17w 17x 1e31 3 18l 17w 18l 1e32 3 18l 17y 17w 1e33 3 18l 17y 18l 1e36 3 18l 17w 17y 1e37",
   "3 18n 18l 17w 1e38 3 18n 18l 18l 1e39 3 18m 17x 18l 1e3a 3 18m 17x 18p 1e3b 3 18m 17w 18l",
   "1e3c 3 18m 17w 18l 1e3d 3 18m 17w 18p 1e3e 3 18m 18l 18q 1e3f 3 18m 18l 18p 1e3g 3 18q 18l",
   "18l 1e3h 3 18q 18l 18l 1e3i 3 17s 17y 18q 1e3j 3 17u 17w 18q 1e3k 3 17u 17w 18p 1e3l 3 17u",
   "17y 18q 1e3m 3 17u 17y 18p 1e3n 3 17u 18l 18q 1e3o 3 17u 18l 18p 1e3p 3 17w 18l 18q 1e3q 3",
   "17w 17x 18p 1e3r 3 17w 18l 18p 1e3s 3 183 17y 18p 1e3t 3 185 17x 18q 1e3u 3 184 17x 18q 1e3v",
   "3 186 17x 18q 1e3w 3 18k 17w 18q 1e3x 3 18k 18l 18q 1e3y 3 18q 17x 18q 1e3z 3 18q 17w 18q",
   "1e40 3 18q 18l 18q 1e41 3 18l 18l 18q 1e42 3 18i 18l 18q 1e43 3 18m 17x 18q 1e44 3 18i 18l",
   "17x 1e45 3 18k 17x 18l 1e46 3 189 18l 18q 1e47 3 18j 18l 18q 1e48 3 18m 17w 17x 1e49 3 18l",
   "17y 18q 1e4a 3 18k 17w 18l 1e4b 3 18j 18l 18l 1e4c 3 18k 17w 18l 1e4d 3 18m 17w 17x 1e4e 3",
   "17w 17x 18q 1e4f 3 17x 17w 18q 1e4g 3 18l 17w 18q 1e4h 3 18h 18l 18q 1e4i 3 17s 17x 18q 1e4j",
   "3 18j 18l 18l 1e4k 3 189 17w 18l 1e4l 3 185 18l 18l 1e4m 3 183 17y 18q 1e4n 3 18m 17w 18q",
   "1e5s 3 185 18k 1ci 1e5t 3 18i 18k 1ci 1e5u 4 17r 18k 18k 18n 1e5v 4 17r 18j 17s 181 1e5w 4",
   "18l 17x 18l 17z 1e5x 4 185 18k 189 18l 1e5y 4 181 183 18o 18k 1e5z 4 189 18k 18q 18n 1e60 4",
   "18o 183 18k 18l 1e61 3 185 18k 18p 1e9d 2 18g 18r 1e9j 2 18g 18u 1e9l 2 18g 18v 1e9n 2 18g",
   "18w 1e9p 2 18g 18x 1e9r 2 18g 18y 1e9t 2 17r 18z 1e9u 2 17r 18z 1e9v 2 17r 190 1e9w 2 17r",
   "190 1e9x 2 18o 190 1e9y 2 18o 190 1e9z 2 17r 191 1ea0 2 17r 191 1ea1 2 18q 190 1ea2 2 18q",
   "190 1ea3 2 18q 190 1ea4 2 18q 190 1ed1 3 18k 17r 18z 1ed2 3 18k 17r 18z 1ed3 3 18k 17r 190",
   "1ed4 3 18k 17r 190 1ed5 3 18k 17r 191 1ed6 3 18k 17r 191 1ed7 2 18k 17r 1ed8 2 18k 17r 1hui",
   "2 1huh 1hve 1huk 2 1huj 1hve 1huz 2 1hut 1hve 1hym 2 1hyp 1hyf 1hyn 2 1hyq 1hyf 1idn 2 1idj",
   "1ida 1ido 2 1idj 1idz 1inv 2 1int 1inu 1inw 2 1int 1ink 1iny 2 1int 1inx 1iuy 2 1iuw 1iun",
   "1iuz 2 1iux 1iun 1jjs 2 1jjp 1jjk"]

/-- Canonical combining classes other than zero, in groups `first count class`. -/
def combiningGroups : List String :=
  ["lc l 6e lx 1 6g ly 4 64 m2 1 6g m3 1 60 m4 5 64 m9 2 5m mb 4 64 mf 2 5m mh b 64 ms 5 1 mx 4",
   "64 n1 8 6e n9 1 6o na 1 6e nb 3 64 ne 3 6e nh 2 64 nk 3 6e nn 4 64 nr 1 6e ns 1 6g nt 2 64",
   "nv 1 6e nw 1 6h nx 2 6i nz 1 6h o0 2 6i o2 1 6h o3 d 6e w3 5 6e 13l 1 64 13m 4 6e 13q 1 64",
   "13r 3 6e 13u 1 66 13v 1 64 13w 6 6e 142 6 64 148 2 6e 14a 1 64 14b 2 6e 14d 1 66 14e 1 6c",
   "14f 1 6e 14g 1 a 14h 1 b 14i 1 c 14j 1 d 14k 1 e 14l 1 f 14m 1 g 14n 1 h 14o 1 i 14p 2 j 14r",
   "1 k 14s 1 l 14t 1 m 14v 1 n 14x 1 o 14y 1 p 150 1 6e 151 1 64 153 1 i 174 8 6e 17c 1 u 17d 1",
   "v 17e 1 w 18r 1 r 18s 1 s 18t 1 t 18u 1 u 18v 1 v 18w 1 w 18x 1 x 18y 1 y 18z 2 6e 191 2 64",
   "193 5 6e 198 1 64 199 2 6e 19b 1 64 19s 1 z 1cm 7 6e 1cv 4 6e 1cz 1 64 1d0 1 6e 1d3 2 6e 1d6",
   "1 64 1d7 2 6e 1d9 1 64 1e9 1 10 1f4 1 6e 1f5 1 64 1f6 2 6e 1f8 1 64 1f9 2 6e 1fb 3 64 1fe 1",
   "6e 1ff 2 64 1fh 1 6e 1fi 1 64 1fj 3 6e 1fm 1 64 1fn 1 6e 1fo 1 64 1fp 1 6e 1fq 1 64 1fr 1 6e",
   "1fs 1 64 1ft 2 6e 1kb 7 6e 1ki 1 64 1kj 1 6e 1kt 1 64 1li 4 6e 1ln 9 6e 1lx 3 6e 1m1 5 6e",
   "1nd 3 64 1p4 1 6e 1p5 3 64 1p8 4 6e 1qi 5 6e 1qn 5 64 1qs e 6e 1r7 1 64 1r8 2 6e 1ra 1 64",
   "1rb 2 6e 1rd 1 64 1re 3 6e 1rh 3 64 1rk 1 r 1rl 1 s 1rm 1 t 1rn 3 6e 1rq 1 64 1rr 2 6e 1rt 2",
   "64 1rv 5 6e 1to 1 7 1u5 1 9 1u9 1 6e 1ua 1 64 1ub 2 6e 1x8 1 7 1xp 1 9 1z2 1 6e 20s 1 7 219",
   "1 9 24c 1 7 24t 1 9 27w 1 7 28d 1 9 2bx 1 9 2f0 1 7 2fh 1 9 2fp 1 2c 2fq 1 2j 2ik 1 7 2j1 1",
   "9 2m3 2 9 2ml 1 9 2q2 1 9 2t4 2 2v 2t6 1 9 2tk 4 2z 2wo 2 3a 2wq 1 9 2x4 4 3e 2zc 2 64 305 1",
   "64 307 1 64 309 1 60 31t 1 3l 31u 1 3m 31w 1 3o 322 4 3m 328 1 3m 32a 2 6e 32c 1 9 32e 2 6e",
   "346 1 64 37b 1 7 37d 2 9 39p 1 64 3tp 3 6e 4k4 2 9 4l0 1 9 4pe 1 9 4pp 1 6e 4vd 1 6c 4zd 1",
   "66 4ze 1 6e 4zf 1 64 55j 1 6e 55k 1 64 57k 1 9 585 8 6e 58f 1 64 59s 5 6e 59x 6 64 5a3 2 6e",
   "5a5 1 64 5a7 2 64 5a9 2 6e 5ab 2 64 5ad 5 6e 5ai 1 64 5aj 4 6e 5dg 1 7 5dw 1 9 5ez 1 6e 5f0",
   "1 64 5f1 7 6e 5gq 2 9 5ie 1 7 5iq 2 9 5kn 1 7 5ow 3 6e 5p0 1 1 5p1 5 64 5p6 2 6e 5p8 4 64",
   "5pc 1 6e 5pe 7 1 5pp 1 64 5pw 1 6e 5q0 2 6e 5vk 2 6e 5vm 1 64 5vn 7 6e 5vu 1 64 5vv 2 6e 5vx",
   "1 6i 5vy 1 5y 5vz 1 64 5w0 1 5m 5w1 11 6e 5x2 1 6g 5x3 2 6c 5x5 1 64 5x6 1 62 5x7 1 6e 5x8 1",
   "6h 5x9 1 64 5xa 1 6e 5xb 1 64 6hc 2 6e 6he 2 1 6hg 4 6e 6hk 3 1 6hn 2 6e 6ht 1 6e 6hx 2 1",
   "6hz 1 6e 6i0 1 64 6i1 1 6e 6i2 2 1 6i4 4 64 6i8 1 6e 8vj 3 6e 8zj 1 9 928 w 6e 9ii 1 62 9ij",
   "1 6c 9ik 1 6g 9il 1 66 9im 2 68 9ll 2 8 wvj 1 6e wvo a 6e wwu 2 6e wz4 2 6e x6u 1 9 x7w 1 9",
   "xc4 1 9 xcw i 6e xez 3 64 xg3 1 9 xir 1 7 xj4 1 9 xps 1 6e xpu 2 6e xpw 1 64 xpz 2 6e xq6 2",
   "6e xq9 1 6e xrq 1 9 xyl 1 9 1dlq 1 q 1e74 7 6e 1e7b 7 64 1e7i 2 6e 1eyl 1 64 1f4w 1 64 1f92",
   "5 6e 1gjx 1 64 1gjz 1 6e 1gl4 1 6e 1gl5 1 1 1gl6 1 64 1glb 1 9 1gpx 1 6e 1gpy 1 64 1h5w 4 6e",
   "1hgr 2 6e 1hl2 2 64 1hl4 3 6e 1hl7 1 64 1hl8 1 6e 1hl9 4 64 1hmq 1 6e 1hmr 1 64 1hms 1 6e",
   "1hmt 1 64 1hs6 1 9 1htc 1 9 1htr 1 9 1hvd 1 9 1hve 1 7 1hxc 3 6e 1hyr 2 9 1i0j 1 7 1i2o 1 9",
   "1i2y 1 7 1i5x 1 9 1i5y 1 7 1iax 1 7 1iay 1 9 1id7 2 7 1idp 1 9 1iee 7 6e 1ieo 5 6e 1iki 1 9",
   "1ikm 1 7 1ila 1 6e 1io2 1 9 1io3 1 7 1iv3 1 9 1iv4 1 7 1iyn 1 9 1j1y 1 9 1j1z 1 7 1j57 1 9",
   "1jcp 1 9 1jcq 1 7 1jjx 2 9 1jk3 1 7 1jog 1 9 1jqs 1 9 1jrb 1 9 1jtl 1 9 1k5b 1 9 1kci 1 7",
   "1kck 2 9 1kev 1 9 1zow 5 1 1zqo 7 6e 20og 2 6 2ftq 1 1 2jxh 2 60 2jxj 3 1 2jxp 1 6a 2jxq 5",
   "60 2jy3 8 64 2jyd 5 6e 2jyi 2 64 2jze 4 6e 2k3m 3 6e 2mtc 7 6e 2mtk h 6e 2mu3 7 6e 2mub 2 6e",
   "2mue 5 6e 2n1s 7 6e 2nce 1 6e 2ne4 4 6e 2ok0 7 64 2on8 6 6e 2one 1 7"]

/-- Canonical compositions, in groups `first second composite`. -/
def compositionGroups : List String :=
  ["1t lc 5c 1t ld 5d 1t le 5e 1t lf 5f 1t lk 5g 1t lm 5h 1v mf 5j 1x lc 5k 1x ld 5l 1x le 5m 1x",
   "lk 5n 21 lc 5o 21 ld 5p 21 le 5q 21 lk 5r 26 lf 5t 27 lc 5u 27 ld 5v 27 le 5w 27 lf 5x 27 lk",
   "5y 2d lc 61 2d ld 62 2d le 63 2d lk 64 2h ld 65 2p lc 68 2p ld 69 2p le 6a 2p lf 6b 2p lk 6c",
   "2p lm 6d 2r mf 6f 2t lc 6g 2t ld 6h 2t le 6i 2t lk 6j 2x lc 6k 2x ld 6l 2x le 6m 2x lk 6n 32",
   "lf 6p 33 lc 6q 33 ld 6r 33 le 6s 33 lf 6t 33 lk 6u 39 lc 6x 39 ld 6y 39 le 6z 39 lk 70 3d ld",
   "71 3d lk 73 1t lg 74 2p lg 75 1t li 76 2p li 77 1t mg 78 2p mg 79 1v ld 7a 2r ld 7b 1v le 7c",
   "2r le 7d 1v lj 7e 2r lj 7f 1v lo 7g 2r lo 7h 1w lo 7i 2s lo 7j 1x lg 7m 2t lg 7n 1x li 7o 2t",
   "li 7p 1x lj 7q 2t lj 7r 1x mg 7s 2t mg 7t 1x lo 7u 2t lo 7v 1z le 7w 2v le 7x 1z li 7y 2v li",
   "7z 1z lj 80 2v lj 81 1z mf 82 2v mf 83 20 le 84 2w le 85 21 lf 88 2x lf 89 21 lg 8a 2x lg 8b",
   "21 li 8c 2x li 8d 21 mg 8e 2x mg 8f 21 lj 8g 22 le 8k 2y le 8l 23 mf 8m 2z mf 8n 24 ld 8p 30",
   "ld 8q 24 mf 8r 30 mf 8s 24 lo 8t 30 lo 8u 26 ld 8z 32 ld 90 26 mf 91 32 mf 92 26 lo 93 32 lo",
   "94 27 lg 98 33 lg 99 27 li 9a 33 li 9b 27 ln 9c 33 ln 9d 2a ld 9g 36 ld 9h 2a mf 9i 36 mf 9j",
   "2a lo 9k 36 lo 9l 2b ld 9m 37 ld 9n 2b le 9o 37 le 9p 2b mf 9q 37 mf 9r 2b lo 9s 37 lo 9t 2c",
   "mf 9u 38 mf 9v 2c lo 9w 38 lo 9x 2d lf a0 39 lf a1 2d lg a2 39 lg a3 2d li a4 39 li a5 2d lm",
   "a6 39 lm a7 2d ln a8 39 ln a9 2d mg aa 39 mg ab 2f le ac 3b le ad 2h le ae 3d le af 2h lk ag",
   "2i ld ah 3e ld ai 2i lj aj 3e lj ak 2i lo al 3e lo am 27 m3 bk 33 m3 bl 2d m3 bz 39 m3 c0 1t",
   "lo ct 2p lo cu 21 lo cv 2x lo cw 27 lo cx 33 lo cy 2d lo cz 39 lo d0 64 lg d1 70 lg d2 64 ld",
   "d3 70 ld d4 64 lo d5 70 lo d6 64 lc d7 70 lc d8 5g lg da 6c lg db fa lg dc fb lg dd 5i lg de",
   "6e lg df 1z lo di 2v lo dj 23 lo dk 2z lo dl 27 mg dm 33 mg dn dm lg do dn lg dp c7 lo dq ia",
   "lo dr 2y lo ds 1z ld dw 2v ld dx 26 lc e0 32 lc e1 5h ld e2 6d ld e3 5i ld e4 6e ld e5 60 ld",
   "e6 6w ld e7 1t lr e8 2p lr e9 1t lt ea 2p lt eb 1x lr ec 2t lr ed 1x lt ee 2t lt ef 21 lr eg",
   "2x lr eh 21 lt ei 2x lt ej 27 lr ek 33 lr el 27 lt em 33 lt en 2a lr eo 36 lr ep 2a lt eq 36",
   "lt er 2d lr es 39 lr et 2d lt eu 39 lt ev 2b me ew 37 me ex 2c me ey 38 me ez 20 lo f2 2w lo",
   "f3 1t lj fa 2p lj fb 1x mf fc 2t mf fd 5y lg fe 6u lg ff 5x lg fg 6t lg fh 27 lj fi 33 lj fj",
   "fi lg fk fj lg fl 2h lg fm 3d lg fn 4o ld p1 pd ld p2 ph ld p4 pj ld p5 pl ld p6 pr ld p8 px",
   "ld pa q1 ld pb qy ld pc pl lk q2 px lk q3 q9 ld q4 qd ld q5 qf ld q6 qh ld q7 qz ld q8 qh lk",
   "qy qt lk qz qn ld r0 qt ld r1 qx ld r2 r6 ld r7 r6 lk r8 t1 lc sg t1 lk sh sz ld sj sm lk sn",
   "t6 ld ss t4 lc st tf li su t4 li t5 u0 li u1 tx lc uo tx lk up tv ld ur uu lk uv u2 ld v0 u0",
   "lc v1 ub li v2 vo lr vq vp lr vr t2 li xt ty li xu sw li y8 ts li y9 sw lk ya ts lk yb t1 li",
   "ye tx li yf yg lk yi yh lk yj t2 lk yk ty lk yl t3 lk ym tz lk yn t4 lg yq u0 lg yr t4 lk ys",
   "u0 lk yt ta lk yu u6 lk yv yw lk yy yx lk yz tp lk z0 ul lk z1 tf lg z2 ub lg z3 tf lk z4 ub",
   "lk z5 tf ln z6 ub ln z7 tj lk z8 uf lk z9 tn lk zc uj lk zd 17r 18z 17m 17r 190 17n 18o 190",
   "17o 17r 191 17p 18q 190 17q 1cl 190 1c0 1c1 190 1c2 1ci 190 1cj 1t4 1to 1t5 1tc 1to 1td 1tf",
   "1to 1tg 1xj 1xa 1xn 1xj 1xz 1xo 287 28m 288 287 27y 28b 287 28n 28c 2aa 2c7 2ac 2bq 2bi 2bu",
   "2br 2bi 2bv 2bq 2c7 2bw 2fa 2fq 2fc 2in 2j9 2io 2iu 2j9 2iv 2iu 2ja 2iw 2iu 2iq 2iy 2iy 2j9",
   "2iz 2me 2m6 2mi 2mf 2m6 2mj 2me 2mv 2mk 2qh 2q2 2qi 2qh 2q7 2qk 2qk 2q2 2ql 2qh 2qn 2qm 36t",
   "372 36u 5c5 5dh 5c6 5c7 5dh 5c8 5c9 5dh 5ca 5cb 5dh 5cc 5cd 5dh 5ce 5ch 5dh 5ci 5dm 5dh 5dn",
   "5do 5dh 5dp 5dq 5dh 5ds 5dr 5dh 5dt 5du 5dh 5dv 1t md 5xc 2p md 5xd 1u lj 5xe 2q lj 5xf 1u",
   "mb 5xg 2q mb 5xh 1u mp 5xi 2q mp 5xj 5j ld 5xk 6f ld 5xl 1w lj 5xm 2s lj 5xn 1w mb 5xo 2s mb",
   "5xp 1w mp 5xq 2s mp 5xr 1w mf 5xs 2s mf 5xt 1w ml 5xu 2s ml 5xv 7m lc 5xw 7n lc 5xx 7m ld",
   "5xy 7n ld 5xz 1x ml 5y0 2t ml 5y1 1x mo 5y2 2t mo 5y3 fc li 5y4 fd li 5y5 1y lj 5y6 2u lj",
   "5y7 1z lg 5y8 2v lg 5y9 20 lj 5ya 2w lj 5yb 20 mb 5yc 2w mb 5yd 20 lk 5ye 2w lk 5yf 20 mf",
   "5yg 2w mf 5yh 20 mm 5yi 2w mm 5yj 21 mo 5yk 2x mo 5yl 5r ld 5ym 6n ld 5yn 23 ld 5yo 2z ld",
   "5yp 23 mb 5yq 2z mb 5yr 23 mp 5ys 2z mp 5yt 24 mb 5yu 30 mb 5yv 5yu lg 5yw 5yv lg 5yx 24 mp",
   "5yy 30 mp 5yz 24 ml 5z0 30 ml 5z1 25 ld 5z2 31 ld 5z3 25 lj 5z4 31 lj 5z5 25 mb 5z6 31 mb",
   "5z7 26 lj 5z8 32 lj 5z9 26 mb 5za 32 mb 5zb 26 mp 5zc 32 mp 5zd 26 ml 5ze 32 ml 5zf 5x ld",
   "5zg 6t ld 5zh 5x lk 5zi 6t lk 5zj 98 lc 5zk 99 lc 5zl 98 ld 5zm 99 ld 5zn 28 ld 5zo 34 ld",
   "5zp 28 lj 5zq 34 lj 5zr 2a lj 5zs 36 lj 5zt 2a mb 5zu 36 mb 5zv 5zu lg 5zw 5zv lg 5zx 2a mp",
   "5zy 36 mp 5zz 2b lj 600 37 lj 601 2b mb 602 37 mb 603 9m lj 604 9n lj 605 9s lj 606 9t lj",
   "607 602 lj 608 603 lj 609 2c lj 60a 38 lj 60b 2c mb 60c 38 mb 60d 2c mp 60e 38 mp 60f 2c ml",
   "60g 38 ml 60h 2d mc 60i 39 mc 60j 2d mo 60k 39 mo 60l 2d ml 60m 39 ml 60n a0 ld 60o a1 ld",
   "60p a2 lk 60q a3 lk 60r 2e lf 60s 3a lf 60t 2e mb 60u 3a mb 60v 2f lc 60w 3b lc 60x 2f ld",
   "60y 3b ld 60z 2f lk 610 3b lk 611 2f lj 612 3b lj 613 2f mb 614 3b mb 615 2g lj 616 3c lj",
   "617 2g lk 618 3c lk 619 2h lj 61a 3d lj 61b 2i le 61c 3e le 61d 2i mb 61e 3e mb 61f 2i mp",
   "61g 3e mp 61h 2w mp 61i 38 lk 61j 3b lm 61k 3d lm 61l an lj 61n 1t mb 61s 2p mb 61t 1t ll",
   "61u 2p ll 61v 5e ld 61w 6a ld 61x 5e lc 61y 6a lc 61z 5e ll 620 6a ll 621 5e lf 622 6a lf",
   "623 61s le 624 61t le 625 76 ld 626 77 ld 627 76 lc 628 77 lc 629 76 ll 62a 77 ll 62b 76 lf",
   "62c 77 lf 62d 61s li 62e 61t li 62f 1x mb 62g 2t mb 62h 1x ll 62i 2t ll 62j 1x lf 62k 2t lf",
   "62l 5m ld 62m 6i ld 62n 5m lc 62o 6i lc 62p 5m ll 62q 6i ll 62r 5m lf 62s 6i lf 62t 62g le",
   "62u 62h le 62v 21 ll 62w 2x ll 62x 21 mb 62y 2x mb 62z 27 mb 630 33 mb 631 27 ll 632 33 ll",
   "633 5w ld 634 6s ld 635 5w lc 636 6s lc 637 5w ll 638 6s ll 639 5w lf 63a 6s lf 63b 630 le",
   "63c 631 le 63d bk ld 63e bl ld 63f bk lc 63g bl lc 63h bk ll 63i bl ll 63j bk lf 63k bl lf",
   "63l bk mb 63m bl mb 63n 2d mb 63o 39 mb 63p 2d ll 63q 39 ll 63r bz ld 63s c0 ld 63t bz lc",
   "63u c0 lc 63v bz ll 63w c0 ll 63x bz lf 63y c0 lf 63z bz mb 640 c0 mb 641 2h lc 642 3d lc",
   "643 2h mb 644 3d mb 645 2h ll 646 3d ll 647 2h lf 648 3d lf 649 q9 lv 64g q9 lw 64h 64g lc",
   "64i 64h lc 64j 64g ld 64k 64h ld 64l 64g n6 64m 64h n6 64n pd lv 64o pd lw 64p 64o lc 64q",
   "64p lc 64r 64o ld 64s 64p ld 64t 64o n6 64u 64p n6 64v qd lv 64w qd lw 64x 64w lc 64y 64x lc",
   "64z 64w ld 650 64x ld 651 ph lv 654 ph lw 655 654 lc 656 655 lc 657 654 ld 658 655 ld 659 qf",
   "lv 65c qf lw 65d 65c lc 65e 65d lc 65f 65c ld 65g 65d ld 65h 65c n6 65i 65d n6 65j pj lv 65k",
   "pj lw 65l 65k lc 65m 65l lc 65n 65k ld 65o 65l ld 65p 65k n6 65q 65l n6 65r qh lv 65s qh lw",
   "65t 65s lc 65u 65t lc 65v 65s ld 65w 65t ld 65x 65s n6 65y 65t n6 65z pl lv 660 pl lw 661",
   "660 lc 662 661 lc 663 660 ld 664 661 ld 665 660 n6 666 661 n6 667 qn lv 668 qn lw 669 668 lc",
   "66a 669 lc 66b 668 ld 66c 669 ld 66d pr lv 66g pr lw 66h 66g lc 66i 66h lc 66j 66g ld 66k",
   "66h ld 66l qt lv 66o qt lw 66p 66o lc 66q 66p lc 66r 66o ld 66s 66p ld 66t 66o n6 66u 66p n6",
   "66v px lw 66x 66x lc 66z 66x ld 671 66x n6 673 qx lv 674 qx lw 675 674 lc 676 675 lc 677 674",
   "ld 678 675 ld 679 674 n6 67a 675 n6 67b q1 lv 67c q1 lw 67d 67c lc 67e 67d lc 67f 67c ld 67g",
   "67d ld 67h 67c n6 67i 67d n6 67j q9 lc 67k qd lc 67m qf lc 67o qh lc 67q qn lc 67s qt lc 67u",
   "qx lc 67w 64g n9 680 64h n9 681 64i n9 682 64j n9 683 64k n9 684 64l n9 685 64m n9 686 64n",
   "n9 687 64o n9 688 64p n9 689 64q n9 68a 64r n9 68b 64s n9 68c 64t n9 68d 64u n9 68e 64v n9",
   "68f 65c n9 68g 65d n9 68h 65e n9 68i 65f n9 68j 65g n9 68k 65h n9 68l 65i n9 68m 65j n9 68n",
   "65k n9 68o 65l n9 68p 65m n9 68q 65n n9 68r 65o n9 68s 65p n9 68t 65q n9 68u 65r n9 68v 674",
   "n9 68w 675 n9 68x 676 n9 68y 677 n9 68z 678 n9 690 679 n9 691 67a n9 692 67b n9 693 67c n9",
   "694 67d n9 695 67e n9 696 67f n9 697 67g n9 698 67h n9 699 67i n9 69a 67j n9 69b q9 li 69c",
   "q9 lg 69d 67k n9 69e q9 n9 69f q4 n9 69g q9 n6 69i 69i n9 69j pd li 69k pd lg 69l pd lc 69m",
   "pd n9 69o 4o n6 69t 67o n9 69u qf n9 69v q6 n9 69w qf n6 69y 69y n9 69z ph lc 6a0 pj lc 6a2",
   "pj n9 6a4 69r lc 6a5 69r ld 6a6 69r n6 6a7 qh li 6a8 qh lg 6a9 qy lc 6aa qh n6 6ae qy n6 6af",
   "pl li 6ag pl lg 6ah pl lc 6ai 6bi lc 6al 6bi ld 6am 6bi n6 6an qt li 6ao qt lg 6ap qz lc 6aq",
   "qp lv 6as qp lw 6at qt n6 6au qz n6 6av px li 6aw px lg 6ax px lc 6ay pt lw 6b0 4o lc 6b1",
   "67w n9 6b6 qx n9 6b7 r2 n9 6b8 qx n6 6ba 6ba n9 6bb pr lc 6bc q1 lc 6be q1 n9 6bg 6mo mw 6my",
   "6mq mw 6mz 6ms mw 6ni 6og mw 6od 6ok mw 6oe 6oi mw 6of 6pv mw 6pw 6q0 mw 6q1 6q3 mw 6q4 6qr",
   "mw 6qs 6qt mw 6qu 6rg mw 6rl 6rn mw 6ro 6rp mw 6rr 6rs mw 6rt 1p mw 6sg 6sh mw 6si 6rx mw",
   "6st 1o mw 6su 1q mw 6sv 6sk mw 6sw 6sl mw 6sx 6sy mw 6t0 6sz mw 6t1 6t2 mw 6t4 6t3 mw 6t5",
   "6t6 mw 6tc 6t7 mw 6td 6te mw 6tg 6tf mw 6th 6ti mw 6tk 6tj mw 6tl 6ua mw 6uk 6ug mw 6ul 6uh",
   "mw 6um 6uj mw 6un 6t8 mw 6w0 6t9 mw 6w1 6tt mw 6w2 6tu mw 6w3 6uq mw 6wa 6ur mw 6wb 6us mw",
   "6wc 6ut mw 6wd 9jf 9ll 9jg 9jh 9ll 9ji 9jj 9ll 9jk 9jl 9ll 9jm 9jn 9ll 9jo 9jp 9ll 9jq 9jr",
   "9ll 9js 9jt 9ll 9ju 9jv 9ll 9jw 9jx 9ll 9jy 9jz 9ll 9k0 9k1 9ll 9k2 9k4 9ll 9k5 9k6 9ll 9k7",
   "9k8 9ll 9k9 9kf 9ll 9kg 9kf 9lm 9kh 9ki 9ll 9kj 9ki 9lm 9kk 9kl 9ll 9km 9kl 9lm 9kn 9ko 9ll",
   "9kp 9ko 9lm 9kq 9kr 9ll 9ks 9kr 9lm 9kt 9ja 9ll 9lg 9lp 9ll 9lq 9m3 9ll 9m4 9m5 9ll 9m6 9m7",
   "9ll 9m8 9m9 9ll 9ma 9mb 9ll 9mc 9md 9ll 9me 9mf 9ll 9mg 9mh 9ll 9mi 9mj 9ll 9mk 9ml 9ll 9mm",
   "9mn 9ll 9mo 9mp 9ll 9mq 9ms 9ll 9mt 9mu 9ll 9mv 9mw 9ll 9mx 9n3 9ll 9n4 9n3 9lm 9n5 9n6 9ll",
   "9n7 9n6 9lm 9n8 9n9 9ll 9na 9n9 9lm 9nb 9nc 9ll 9nd 9nc 9lm 9ne 9nf 9ll 9ng 9nf 9lm 9nh 9ly",
   "9ll 9o4 9nz 9ll 9o7 9o0 9ll 9o8 9o1 9ll 9o9 9o2 9ll 9oa 9od 9ll 9oe 1huh 1hve 1hui 1huj 1hve",
   "1huk 1hut 1hve 1huz 1hyp 1hyf 1hym 1hyq 1hyf 1hyn 1idj 1ida 1idn 1idj 1idz 1ido 1int 1inu",
   "1inv 1int 1ink 1inw 1int 1inx 1iny 1iuw 1iun 1iuy 1iux 1iun 1iuz 1jjp 1jjk 1jjs"]

def severalOf : (fuel : Nat) → List Nat → List (Nat × List Nat)
  | 0, _ => []
  | fuel + 1, c :: count :: rest =>
    (c, rest.take count) :: severalOf fuel (rest.drop count)
  | _, _ => []

def combiningOf : List Nat → List (Nat × Nat × Nat)
  | first :: count :: value :: rest => (first, count, value) :: combiningOf rest
  | _ => []

def compositionsOf : List Nat → List ((Nat × Nat) × Nat)
  | a :: b :: c :: rest => ((a, b), c) :: compositionsOf rest
  | _ => []

def singleTable : List CaseRun := caseRunsOf (singleGroups.flatMap numbersOf)

def severalTable : Std.HashMap Nat (List Nat) :=
  let ns := severalGroups.flatMap numbersOf
  .ofList (severalOf ns.length ns)

def combiningTable : List (Nat × Nat × Nat) := combiningOf (combiningGroups.flatMap numbersOf)

def compositionTable : Std.HashMap (Nat × Nat) Nat :=
  .ofList (compositionsOf (compositionGroups.flatMap numbersOf))

/-- The Hangul syllables decompose by arithmetic: 19 leading consonants, 21 vowels and 27
trailing consonants or none. -/
def hangulBase : Nat := 0xac00
def hangulLead : Nat := 0x1100
def hangulVowel : Nat := 0x1161
def hangulTail : Nat := 0x11a7

def decomposeChar (c : Char) : List Nat :=
  let n := c.toNat
  if isAscii c then [n]
  else if hangulBase ≤ n && n < hangulBase + 11172 then
    let i := n - hangulBase
    let tail := if i % 28 = 0 then [] else [hangulTail + i % 28]
    (hangulLead + i / 588) :: (hangulVowel + i % 588 / 28) :: tail
  else match severalTable[n]? with
    | some ns => ns
    | none => [(singleTable.findSome? fun r => r.image? n).getD n]

def combiningClass (n : Nat) : Nat :=
  if n < 0x300 then 0
  else
    ((combiningTable.find? fun (first, count, _) => first ≤ n && n < first + count).map
      fun (_, _, value) => value).getD 0

/-- Marks in canonical order: inside a run of marks by class, those of one class as they stood.
The list is built from its end, so a mark moves behind all marks of a lower class. -/
def orderMarks (ns : List Nat) : List Nat :=
  ns.foldr (fun n rest =>
    if combiningClass n = 0 then n :: rest
    else
      let (lower, others) := rest.span fun m =>
        combiningClass m != 0 && combiningClass m < combiningClass n
      lower ++ n :: others) []

def composePair? (a b : Nat) : Option Nat :=
  if hangulLead ≤ a && a < hangulLead + 19 && hangulVowel ≤ b && b < hangulVowel + 21 then
    some (hangulBase + ((a - hangulLead) * 21 + (b - hangulVowel)) * 28)
  else if hangulBase ≤ a && a < hangulBase + 11172 && (a - hangulBase) % 28 = 0
      && hangulTail < b && b < hangulTail + 28 then
    some (a + (b - hangulTail))
  else compositionTable[(a, b)]?

/-- Composes into the last starter what follows it and is not blocked: `between` holds the
marks kept since the starter, the latest first, with the class of the latest. -/
def composeFrom (starter : Nat) (between : List Nat) : List Nat → List Nat
  | [] => starter :: between.reverse
  | n :: rest =>
    let kept := match between with
      | [] => none
      | m :: _ => some (combiningClass m)
    let blocked := match kept with
      | none => false
      | some k => k = 0 || combiningClass n ≤ k
    match if blocked then none else composePair? starter n with
    | some composite => composeFrom composite between rest
    | none =>
      if combiningClass n = 0 then (starter :: between.reverse) ++ composeFrom n [] rest
      else composeFrom starter (n :: between) rest

def composeAll : List Nat → List Nat
  | [] => []
  | n :: rest => composeFrom n [] rest

def compatible (s : Text) : Text :=
  if s.all isAscii then s
  else (composeAll (orderMarks (s.flatMap decomposeChar))).map Char.ofNat

end ModuleGraph.Text
